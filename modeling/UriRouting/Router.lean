import UriRouting.Strict

/-! # Routers

A router is a table of routes with the views they lead to. A URI goes to the first route in the
table that accepts it, in the order in which the routes were mounted, and to the fallback view if
none does. A view is examined when it is taken into the table or made the fallback: what cannot be
used is refused at that moment and leaves the router as it was.
-/

namespace UriRouting

structure Mount where
  route : Route
  view : View
  deriving DecidableEq

/-- A table of routes, and what is done with a URI that none of them accepts (`Router`). -/
structure Router where
  strict : Bool
  mounts : List Mount
  fallback? : Option View
  deriving DecidableEq

/-- Why a URI could not be followed. -/
inductive NavigationFailure where
  | notFound (uri : String)
  | undecodable (fault : Utf8.Fault)
  | refused (refusal : Refusal)
  | failed (failure : CallFailure)
  deriving Repr, DecidableEq

def notFoundMessage (uri : String) : String :=
  "No route matches " ++ Text.quoted uri

namespace Router

def empty (strict : Bool) : Router := ⟨strict, [], none⟩

/-- Examines a view that a route is to lead to: by the rules of strict mode if they apply, and
then for what calling it takes. -/
def examine (router : Router) (route : Route) (view : View) : Except Strict.Rejection Unit := do
  if router.strict then Strict.check view route
  match view.plan with
  | .ok _ => .ok ()
  | .error refusal => .error (.refused refusal)

/-- The router with one more route, after all others (`Router.mount`). -/
def mount (router : Router) (route : Route) (view : View) : Except Strict.Rejection Router := do
  router.examine route view
  return { router with mounts := router.mounts ++ [⟨route, view⟩] }

/-- The router with another fallback, or with none (`Router.fallback`). A fallback is examined as if
the blank route led to it. -/
def setFallback (router : Router) (view? : Option View) : Except Strict.Rejection Router :=
  match view? with
  | none => .ok { router with fallback? := none }
  | some view => do
    router.examine .blank view
    return { router with fallback? := some view }

def setStrict (router : Router) (strict : Bool) : Router :=
  { router with strict }

/-- A router without routes that has the given fallback. -/
def make (strict : Bool) (fallback? : Option View) : Except Strict.Rejection Router :=
  (empty strict).setFallback fallback?

def routes (router : Router) : List Route :=
  router.mounts.map Mount.route

/-- The first of some mounts whose route accepts a URI, with its place and what the URI says to
the route. If the texts that a route finds cannot be decoded, no other one is asked. -/
def firstMatch (uri : String) :
    (place : Nat) → List Mount → Except Utf8.Fault (Option (Nat × Mount × Match))
  | _, [] => .ok none
  | place, candidate :: later =>
    match candidate.route.matchUri uri with
    | .error fault => .error fault
    | .ok (some found) => .ok (some (place, candidate, found))
    | .ok none => firstMatch uri (place + 1) later

/-- The mount that a URI leads to, with its place in the table and what the URI says to its route
(`Router.resolve`). -/
def resolve (router : Router) (uri : String) :
    Except Utf8.Fault (Option (Nat × Mount × Match)) :=
  firstMatch (Route.dropMark uri) 0 router.mounts

section

variable (validator : Validator)

def follow (view : View) (found : Match) : Except NavigationFailure Outcome :=
  match view.plan with
  | .error refusal => .error (.refused refusal)
  | .ok plan =>
    match plan.call validator found with
    | .ok outcome => .ok outcome
    | .error failure => .error (.failed failure)

/-- Calls the view that a URI leads to (`Router.navigate`). -/
def navigate (router : Router) (uri : String) : Except NavigationFailure Outcome :=
  match router.resolve uri with
  | .error fault => .error (.undecodable fault)
  | .ok (some (_, mount, found)) => follow validator mount.view found
  | .ok none =>
    match router.fallback? with
    | some view => follow validator view .blank
    | none => .error (.notFound uri)

end

end Router

end UriRouting
