import Mathlib
import UriRouting.Router.Dispatcher
import UriRouting.Proofs.Router.History
import UriRouting.Proofs.Router.Following
import UriRouting.Proofs.View.Giving

/-! # What a dispatcher keeps

A dispatcher is ready when the plans that it keeps are those of the views, and each view to which its
router leads has one. It is made ready, every operation keeps it so, and while it is ready it does
what its router would do without plans. An operation that does not succeed in changing the router
leaves no trace at all, although nothing is taken back: the last of its steps that can fail comes
before the first that changes something.

A ready dispatcher never makes a plan when it follows a URI, so a view that cannot be used is noticed
when it is offered and never later.
-/

namespace UriRouting

namespace Dispatcher

open Router (Operation Reply mounted? assigned? switched?)

/-- Whether the plans are right and all there. -/
structure IsReady (dispatcher : Dispatcher) : Prop where
  kept : ∀ view plan, dispatcher.plans.lookup view = some plan → view.plan = .ok plan
  used : ∀ view, dispatcher.router.Uses view → ∃ plan, dispatcher.plans.lookup view = some plan

/-- The dispatcher that keeps a plan for a view, unless it keeps one already. -/
def learn (dispatcher : Dispatcher) (view : View) (plan : Plan) : Dispatcher :=
  match dispatcher.plans.lookup view with
  | some _ => dispatcher
  | none => { dispatcher with plans := (view, plan) :: dispatcher.plans }

section Learning

variable {dispatcher : Dispatcher} {view : View} {plan : Plan}

theorem router_learn (dispatcher : Dispatcher) (view : View) (plan : Plan) :
    (dispatcher.learn view plan).router = dispatcher.router := by
  unfold learn
  split <;> rfl

theorem learn_of_kept (kept : dispatcher.plans.lookup view = some plan) :
    dispatcher.learn view plan = dispatcher := by
  simp only [learn, kept]

theorem IsReady.lookup_learn (ready : dispatcher.IsReady) (planned : view.plan = .ok plan)
    (other : View) :
    (dispatcher.learn view plan).plans.lookup other =
      if other = view then some plan else dispatcher.plans.lookup other := by
  unfold learn
  split
  · rename_i old kept
    obtain rfl := Except.ok.inj ((ready.kept view old kept).symm.trans planned)
    by_cases same : other = view
    · rw [if_pos same, same, kept]
    · rw [if_neg same]
  · by_cases same : other = view
    · simp [same]
    · have differs : (other == view) = false := by simpa using same
      simp [List.lookup_cons, differs, same]

theorem planFor_eq (view : View) (dispatcher : Dispatcher) :
    planFor view dispatcher =
      match dispatcher.plans.lookup view, view.plan with
      | some plan, _ => .ok plan dispatcher
      | none, .error refusal => .error refusal dispatcher
      | none, .ok plan =>
        .ok plan { dispatcher with plans := (view, plan) :: dispatcher.plans } := by
  cases kept : dispatcher.plans.lookup view with
  | some plan =>
      simp only [planFor, bind, EStateM.bind, get, getThe, MonadStateOf.get, EStateM.get, kept]
      rfl
  | none =>
      simp only [planFor, bind, EStateM.bind, get, getThe, MonadStateOf.get, EStateM.get, kept]
      cases view.plan <;> rfl

theorem IsReady.planFor_of_ok (ready : dispatcher.IsReady) (planned : view.plan = .ok plan) :
    planFor view dispatcher = .ok plan (dispatcher.learn view plan) := by
  rw [planFor_eq, planned]
  unfold learn
  cases kept : dispatcher.plans.lookup view with
  | none => rfl
  | some old =>
      obtain rfl := Except.ok.inj ((ready.kept view old kept).symm.trans planned)
      rfl

theorem IsReady.planFor_of_error (ready : dispatcher.IsReady) {refusal : Refusal}
    (refused : view.plan = .error refusal) :
    planFor view dispatcher = .error refusal dispatcher := by
  rw [planFor_eq, refused]
  cases kept : dispatcher.plans.lookup view with
  | none => rfl
  | some old =>
      rw [ready.kept view old kept] at refused
      cases refused

end Learning

section Accepting

variable {dispatcher : Dispatcher}

theorem accept_eq (route : Route) (view : View) (dispatcher : Dispatcher) :
    accept route view dispatcher =
      match (if dispatcher.router.strict then Strict.check view route else .ok ()) with
      | .error rejection => .error rejection dispatcher
      | .ok () =>
        match planFor view dispatcher with
        | .error refusal after => .error (.refused refusal) after
        | .ok _ after => .ok () after := by
  simp only [accept, bind, EStateM.bind, get, getThe, MonadStateOf.get, EStateM.get]
  cases dispatcher.router.strict with
  | false =>
      simp only [Bool.false_eq_true, if_false, EStateM.bind, EStateM.adaptExcept]
      cases planFor view dispatcher <;> rfl
  | true =>
      simp only [if_true]
      cases Strict.check view route with
      | error rejection => rfl
      | ok checked =>
          simp only [EStateM.bind, EStateM.adaptExcept, pure, EStateM.pure]
          cases planFor view dispatcher <;> rfl

theorem examine_eq (router : Router) (route : Route) (view : View) :
    router.examine route view =
      match (if router.strict then Strict.check view route else .ok ()) with
      | .error rejection => .error rejection
      | .ok () =>
        match view.plan with
        | .error refusal => .error (.refused refusal)
        | .ok _ => .ok () := by
  unfold Router.examine
  cases router.strict with
  | false => cases view.plan <;> rfl
  | true => cases Strict.check view route <;> cases view.plan <;> rfl

/-- A rejected view leaves nothing, and an accepted one only its plan. -/
theorem IsReady.accept_cases (ready : dispatcher.IsReady) (route : Route) (view : View) :
    (∃ rejection, dispatcher.router.examine route view = .error rejection ∧
      accept route view dispatcher = .error rejection dispatcher) ∨
    ∃ plan, dispatcher.router.examine route view = .ok () ∧ view.plan = .ok plan ∧
      accept route view dispatcher = .ok () (dispatcher.learn view plan) := by
  rw [accept_eq, examine_eq]
  cases if dispatcher.router.strict then Strict.check view route else .ok () with
  | error rejection => exact .inl ⟨rejection, rfl, rfl⟩
  | ok checked =>
      cases planned : view.plan with
      | error refusal => exact .inl ⟨.refused refusal, rfl, by rw [ready.planFor_of_error planned]⟩
      | ok plan => exact .inr ⟨plan, rfl, rfl, by rw [ready.planFor_of_ok planned]⟩

theorem IsReady.acceptThen_cases (ready : dispatcher.IsReady) (route : Route) (view : View)
    (change : Router → Router)
    (uses : ∀ other, (change dispatcher.router).Uses other →
      other = view ∨ dispatcher.router.Uses other) :
    (∃ rejection, dispatcher.router.examine route view = .error rejection ∧
      acceptThen route view change dispatcher = .error rejection dispatcher) ∨
    ∃ after : Dispatcher, dispatcher.router.examine route view = .ok () ∧
      acceptThen route view change dispatcher = .ok () after ∧
      after.router = change dispatcher.router ∧ after.IsReady := by
  simp only [acceptThen, bind, EStateM.bind]
  rcases ready.accept_cases route view with
    ⟨rejection, examined, rejected⟩ | ⟨plan, examined, planned, accepted⟩
  · rw [examined, rejected]
    exact .inl ⟨rejection, rfl, rfl⟩
  · rw [examined, accepted]
    refine .inr ⟨_, rfl, rfl, congrArg change (router_learn ..), ?_, ?_⟩
    · intro other known kept
      have kept := (ready.lookup_learn planned other).symm.trans kept
      split at kept
      · rename_i same
        rw [same, planned, Option.some.inj kept]
      · exact ready.kept other known kept
    · intro other used
      have used : (change dispatcher.router).Uses other := by rwa [← router_learn dispatcher view plan]
      by_cases same : other = view
      · exact ⟨plan, (ready.lookup_learn planned other).trans (if_pos same)⟩
      · obtain ⟨known, kept⟩ := ready.used other ((uses other used).resolve_left same)
        exact ⟨known, ((ready.lookup_learn planned other).trans (if_neg same)).trans kept⟩

end Accepting

section Performing

variable {dispatcher : Dispatcher}

theorem IsReady.mount_cases (ready : dispatcher.IsReady) (route : Route) (view : View) :
    (∃ rejection, dispatcher.router.mount route view = .error rejection ∧
      mount route view dispatcher = .error rejection dispatcher) ∨
    ∃ after, dispatcher.router.mount route view = .ok after.router ∧
      mount route view dispatcher = .ok () after ∧ after.IsReady := by
  rw [Router.mount_eq]
  rcases ready.acceptThen_cases route view
      (fun router => { router with mounts := router.mounts ++ [⟨route, view⟩] })
      (fun _ uses => uses.of_mount) with
    ⟨rejection, examined, rejected⟩ | ⟨after, examined, accepted, changed, readyAfter⟩
  · exact .inl ⟨rejection, by rw [examined]; rfl, rejected⟩
  · exact .inr ⟨after, by rw [examined, changed]; rfl, accepted, readyAfter⟩

theorem IsReady.setFallback_cases (ready : dispatcher.IsReady) (view? : Option View) :
    (∃ rejection, dispatcher.router.setFallback view? = .error rejection ∧
      setFallback view? dispatcher = .error rejection dispatcher) ∨
    ∃ after, dispatcher.router.setFallback view? = .ok after.router ∧
      setFallback view? dispatcher = .ok () after ∧ after.IsReady := by
  cases view? with
  | none =>
      refine .inr ⟨_, rfl, rfl, ready.kept, ?_⟩
      rintro view (mounted | fallback)
      · exact ready.used view (.inl mounted)
      · cases fallback
  | some view =>
      rw [Router.setFallback_some_eq]
      rcases ready.acceptThen_cases .blank view
          (fun router => { router with fallback? := some view })
          (fun _ uses => uses.of_fallback) with
        ⟨rejection, examined, rejected⟩ | ⟨after, examined, accepted, changed, readyAfter⟩
      · exact .inl ⟨rejection, by rw [examined]; rfl, rejected⟩
      · exact .inr ⟨after, by rw [examined, changed]; rfl, accepted, readyAfter⟩

theorem IsReady.follow_eq (ready : dispatcher.IsReady) {view : View}
    (used : dispatcher.router.Uses view) (validator : Validator) (found : Match) :
    follow validator view found dispatcher =
      match Router.follow validator view found with
      | .ok outcome => .ok outcome dispatcher
      | .error failure => .error failure dispatcher := by
  obtain ⟨plan, kept⟩ := ready.used view used
  have planned := ready.kept view plan kept
  have looked : planFor view dispatcher = .ok plan dispatcher := by
    rw [ready.planFor_of_ok planned, learn_of_kept kept]
  simp only [follow, Router.follow, bind, EStateM.bind, EStateM.adaptExcept, looked, planned]
  cases plan.call validator found <;> rfl

theorem IsReady.navigate_eq (ready : dispatcher.IsReady) (validator : Validator) (uri : String) :
    navigate validator uri dispatcher =
      match dispatcher.router.navigate validator uri with
      | .ok outcome => .ok outcome dispatcher
      | .error failure => .error failure dispatcher := by
  simp only [navigate, Router.navigate, bind, EStateM.bind, get, getThe, MonadStateOf.get,
    EStateM.get]
  cases resolved : dispatcher.router.resolve uri with
  | error fault => rfl
  | ok result =>
      cases result with
      | some accepted =>
          obtain ⟨place, mount, found⟩ := accepted
          have member := (Router.mem_of_firstMatch resolved).1
          exact ready.follow_eq (.inl ⟨mount, member, rfl⟩) validator found
      | none =>
          cases fallback : dispatcher.router.fallback? with
          | none => rfl
          | some view => exact ready.follow_eq (.inr fallback) validator .blank

theorem IsReady.perform_navigate (ready : dispatcher.IsReady) (validator : Validator)
    (uri : String) :
    dispatcher.perform validator (.navigate uri) =
      (dispatcher, .navigated (dispatcher.router.navigate validator uri)) := by
  rw [Dispatcher.perform, ready.navigate_eq]
  cases dispatcher.router.navigate validator uri <;> rfl

theorem IsReady.navigate_of_leadsTo (ready : dispatcher.IsReady) {uri : String} {view : View}
    {found : Match} (leads : dispatcher.router.LeadsTo uri view found) (validator : Validator) :
    ∃ plan, view.plan = .ok plan ∧
      dispatcher.router.navigate validator uri = (plan.call validator found).mapError .failed := by
  obtain ⟨plan, kept⟩ := ready.used view leads.uses
  have planned := ready.kept view plan kept
  exact ⟨plan, planned, by rw [Router.navigate_of_leadsTo leads, Router.follow_of_plan planned]⟩

/-- An operation does to a ready dispatcher what it does to its router. If it does not succeed in
changing the router, it changes nothing. -/
theorem IsReady.perform (ready : dispatcher.IsReady) (validator : Validator)
    (operation : Operation) :
    ∃ after reply, dispatcher.perform validator operation = (after, reply) ∧
      dispatcher.router.perform validator operation = (after.router, reply) ∧ after.IsReady ∧
      (reply ≠ .changed → after = dispatcher) := by
  cases operation with
  | mount route view =>
      simp only [Dispatcher.perform, Router.perform]
      rcases ready.mount_cases route view with
        ⟨rejection, plain, rejected⟩ | ⟨after, plain, changed, readyAfter⟩
      · rw [plain, rejected]
        exact ⟨dispatcher, _, rfl, rfl, ready, fun _ => rfl⟩
      · rw [plain, changed]
        exact ⟨after, _, rfl, rfl, readyAfter, fun unchanged => absurd rfl unchanged⟩
  | setFallback view? =>
      simp only [Dispatcher.perform, Router.perform]
      rcases ready.setFallback_cases view? with
        ⟨rejection, plain, rejected⟩ | ⟨after, plain, changed, readyAfter⟩
      · rw [plain, rejected]
        exact ⟨dispatcher, _, rfl, rfl, ready, fun _ => rfl⟩
      · rw [plain, changed]
        exact ⟨after, _, rfl, rfl, readyAfter, fun unchanged => absurd rfl unchanged⟩
  | setStrict strict =>
      exact ⟨_, _, rfl, rfl, ⟨ready.kept, ready.used⟩, fun unchanged => absurd rfl unchanged⟩
  | resolve uri => exact ⟨dispatcher, _, rfl, rfl, ready, fun _ => rfl⟩
  | navigate uri =>
      exact ⟨dispatcher, _, ready.perform_navigate validator uri, rfl, ready, fun _ => rfl⟩

/-- A run of a ready dispatcher is the run of its router, with the same replies. -/
theorem IsReady.run (ready : dispatcher.IsReady) (validator : Validator)
    (operations : List Operation) :
    (dispatcher.run validator operations).1.IsReady ∧
      dispatcher.router.run validator operations =
        ((dispatcher.run validator operations).1.router, (dispatcher.run validator operations).2) := by
  induction operations generalizing dispatcher with
  | nil => exact ⟨ready, rfl⟩
  | cons operation later ih =>
      obtain ⟨after, reply, performed, plain, readyAfter, -⟩ := ready.perform validator operation
      obtain ⟨readyFinal, same⟩ := ih readyAfter
      simp only [Dispatcher.run, Router.run, performed, plain, same]
      exact ⟨readyFinal, trivial⟩

end Performing

theorem ready_of_make {strict : Bool} {fallback? : Option View} {start : Dispatcher}
    (made : make strict fallback? = .ok start) :
    start.IsReady ∧ Router.make strict fallback? = .ok start.router := by
  have ready : IsReady ⟨.empty strict, []⟩ := by
    refine ⟨nofun, ?_⟩
    rintro view (⟨mount, member, -⟩ | fallback)
    · cases member
    · cases fallback
  unfold make at made
  rcases ready.setFallback_cases fallback? with
    ⟨rejection, -, rejected⟩ | ⟨after, plain, changed, readyAfter⟩
  · rw [rejected] at made
    cases made
  · rw [changed] at made
    obtain rfl := Except.ok.inj made
    exact ⟨readyAfter, plain⟩

/-- A view for which there is a plan is never refused when a URI leads to it. -/
theorem IsReady.navigate_ne_refused {dispatcher : Dispatcher} (ready : dispatcher.IsReady)
    (validator : Validator) (uri : String) (refusal : Refusal) :
    dispatcher.router.navigate validator uri ≠ .error (.refused refusal) := by
  rcases dispatcher.router.leadsTo_or_error validator uri with
    ⟨view, found, leads⟩ | missing | ⟨fault, faulty⟩
  · obtain ⟨plan, -, called⟩ := ready.navigate_of_leadsTo leads validator
    rw [called]
    cases plan.call validator found <;> simp [Except.mapError]
  · simp [missing]
  · simp [faulty]

/-- After every run the router is what the replies tell: the table holds what was mounted, in order,
and the fallback and strict mode are as they were set last. What does not succeed in changing the
router changes nothing, and every view that the router leads to has a plan, so that none is refused
when a URI leads to it. The router alone would have gone the same way. -/
theorem run_of_make {strict : Bool} {fallback? : Option View} {start : Dispatcher}
    (made : make strict fallback? = .ok start) (validator : Validator)
    (operations : List Operation) :
    let final := (start.run validator operations).1
    let replies := (start.run validator operations).2
    (Router.make strict fallback? = .ok start.router ∧
        start.router.run validator operations = (final.router, replies)) ∧
      final.router.mounts = (operations.zip replies).filterMap mounted? ∧
      final.router.fallback? = ((operations.zip replies).filterMap assigned?).getLastD fallback? ∧
      final.router.strict = ((operations.zip replies).filterMap switched?).getLastD strict ∧
      (∀ operation, (final.perform validator operation).2 ≠ .changed →
        (final.perform validator operation).1 = final) ∧
      (∀ view, final.router.Uses view →
        ∃ plan, view.plan = .ok plan ∧ final.plans.lookup view = some plan) ∧
      ∀ uri refusal,
        (final.perform validator (.navigate uri)).2 ≠ .navigated (.error (.refused refusal)) := by
  obtain ⟨ready, plain⟩ := ready_of_make made
  obtain ⟨readyFinal, same⟩ := ready.run validator operations
  have first := Router.eq_of_make plain
  have mounts := Router.mounts_run validator start.router operations
  have fallback := Router.fallback?_run validator start.router operations
  have mode := Router.strict_run validator start.router operations
  simp only [Router.history, same] at mounts fallback mode
  simp only [first, List.nil_append] at mounts fallback mode
  refine ⟨⟨plain, same⟩, mounts, fallback, mode, ?_, ?_, ?_⟩
  · intro operation unchanged
    obtain ⟨after, reply, performed, -, -, traceless⟩ := readyFinal.perform validator operation
    rw [performed] at unchanged ⊢
    exact traceless unchanged
  · intro view used
    obtain ⟨plan, kept⟩ := readyFinal.used view used
    exact ⟨plan, readyFinal.kept view plan kept, kept⟩
  · intro uri refusal refused
    obtain ⟨after, reply, performed, alike, -⟩ := readyFinal.perform validator (.navigate uri)
    rw [performed] at refused
    have answer := (congrArg Prod.snd alike).trans refused
    exact readyFinal.navigate_ne_refused validator uri refusal (Reply.navigated.inj answer)

def sampleView (ascription? : Option Ascription) : View :=
  .plain (.function "m" {
      parameters := [⟨"q", .standard, none⟩]
      distinct := by decide
      ordered := by decide
    } (.ofList (ascription?.toList.map ("q", ·))) .empty)

def untoldView : View :=
  .plain {
    name := "map"
    label := "map"
    told := .hides "no signature found"
    annotations := .empty
    scope := .empty
    bodies := []
  }

/-- A run in which a view is rejected twice, for a route and as the fallback, and accepted when
strict mode is off. Another view is rejected even then. -/
def sampleRun : List Operation :=
  [.mount ⟨1, .fixed, "/{q}"⟩ (sampleView (some (.direct .text))),
    .mount ⟨2, .fixed, "/a/{q}"⟩ (sampleView none), .setFallback (some (sampleView none)),
    .navigate "#/b/c", .setStrict false, .mount ⟨2, .fixed, "/a/{q}"⟩ (sampleView none),
    .setFallback (some (sampleView none)), .setFallback (some untoldView), .navigate "#/b/c"]

theorem run_of_make_sampleRun :
    ∃ start, make true none = .ok start ∧
      let final := (start.run .demanding sampleRun).1
      final.router.mounts = [⟨⟨1, .fixed, "/{q}"⟩, sampleView (some (.direct .text))⟩,
          ⟨⟨2, .fixed, "/a/{q}"⟩, sampleView none⟩] ∧
        final.router.fallback? = some (sampleView none) ∧ final.router.strict = false ∧
        ∀ uri refusal, (final.perform .demanding (.navigate uri)).2 ≠
          .navigated (.error (.refused refusal)) := by
  have made : make true none = .ok ⟨.empty true, []⟩ := rfl
  obtain ⟨-, mounts, fallback, mode, -, -, usable⟩ := run_of_make made .demanding sampleRun
  exact ⟨_, made, mounts.trans (by decide), fallback.trans (by decide), mode.trans (by decide),
    usable⟩

end Dispatcher

end UriRouting
