import UriRouting.Router.Run

/-! # Routers that keep their plans

Making a plan takes the signature and the hints of a view. A router at work makes the plan for a view
once, when the view is accepted, and keeps it; when a URI leads to the view, the plan is looked up.

An action is done step by step, and each step may fail. Nothing is taken back then: what the steps
before it have changed remains. So it depends on the order of the steps whether a refused view leaves
a trace.
-/

namespace UriRouting

/-- A router with the plans that it has made so far (`Router` with its `_view_meta`). -/
structure Dispatcher where
  router : Router
  plans : List (View × Plan)

namespace Dispatcher

open Router (Operation Reply)

/-- An action on a dispatcher. When it fails, what it has changed before stays changed. -/
abbrev Action (ε α : Type) := EStateM ε Dispatcher α

/-- The plan for a view, which is made and kept if there is none yet (`_meta_for`). -/
def planFor (view : View) : Action Refusal Plan := do
  match (← get).plans.lookup view with
  | some plan => return plan
  | none =>
    match view.plan with
    | .error refusal => throw refusal
    | .ok plan =>
      modify fun dispatcher => { dispatcher with plans := (view, plan) :: dispatcher.plans }
      return plan

/-- Examines a view that a route is to lead to, and keeps its plan. -/
def accept (route : Route) (view : View) : Action Strict.Rejection Unit := do
  if (← get).router.strict then
    match Strict.check view route with
    | .error rejection => throw rejection
    | .ok () => pure ()
  let _ ← (planFor view).adaptExcept .refused

/-- Changes the router, once a view that a route is to lead to has been accepted. -/
def acceptThen (route : Route) (view : View) (change : Router → Router) :
    Action Strict.Rejection Unit := do
  accept route view
  modify fun dispatcher => { dispatcher with router := change dispatcher.router }

/-- Lets a route lead to a view (`Router.mount`, and `Router.view`, which does the same). -/
def mount (route : Route) (view : View) : Action Strict.Rejection Unit :=
  acceptThen route view fun router => { router with mounts := router.mounts ++ [⟨route, view⟩] }

/-- Names the fallback, or none (`Router.fallback`). -/
def setFallback (view? : Option View) : Action Strict.Rejection Unit :=
  match view? with
  | none =>
    modify fun dispatcher =>
      { dispatcher with router := { dispatcher.router with fallback? := none } }
  | some view => acceptThen .blank view fun router => { router with fallback? := some view }

section

variable (validator : Validator)

def follow (view : View) (found : Match) : Action NavigationFailure Outcome := do
  let plan ← (planFor view).adaptExcept .refused
  match plan.call validator found with
  | .ok outcome => return outcome
  | .error failure => throw (.failed failure)

/-- Calls the view that a URI leads to (`Router.navigate`). -/
def navigate (uri : String) : Action NavigationFailure Outcome := do
  let router := (← get).router
  match router.resolve uri with
  | .error fault => throw (.undecodable fault)
  | .ok (some (_, mount, found)) => follow validator mount.view found
  | .ok none =>
    match router.fallback? with
    | some view => follow validator view .blank
    | none => throw (.notFound uri)

end

/-- A dispatcher without routes that has the given fallback (`Router.__init__`). -/
def make (strict : Bool) (fallback? : Option View) : Except Strict.Rejection Dispatcher :=
  match setFallback fallback? ⟨.empty strict, []⟩ with
  | .ok () dispatcher => .ok dispatcher
  | .error rejection _ => .error rejection

def settled : EStateM.Result Strict.Rejection Dispatcher Unit → Dispatcher × Reply
  | .ok () after => (after, .changed)
  | .error rejection after => (after, .rejected rejection)

def navigated : EStateM.Result NavigationFailure Dispatcher Outcome → Dispatcher × Reply
  | .ok outcome after => (after, .navigated (.ok outcome))
  | .error failure after => (after, .navigated (.error failure))

section

variable (validator : Validator)

def perform (dispatcher : Dispatcher) : Operation → Dispatcher × Reply
  | .mount route view => settled (mount route view dispatcher)
  | .setFallback view? => settled (setFallback view? dispatcher)
  | .setStrict strict =>
    ({ dispatcher with router := dispatcher.router.setStrict strict }, .changed)
  | .resolve uri => (dispatcher, .resolved (dispatcher.router.resolve uri))
  | .navigate uri => navigated (navigate validator uri dispatcher)

def run (dispatcher : Dispatcher) : List Operation → Dispatcher × List Reply
  | [] => (dispatcher, [])
  | operation :: later =>
    let (after, reply) := dispatcher.perform validator operation
    let (final, replies) := run after later
    (final, reply :: replies)

end

end Dispatcher

end UriRouting
