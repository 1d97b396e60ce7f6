import Mathlib
import UriRouting.Proofs.Router.Dispatching

/-! # Runs in strict mode

A router that is strict whenever it takes a view knows of each view in its table that it can be used,
and that a match of its route has a value for each of its parameters. Every operation keeps this,
whether it succeeds or not, and so it holds after every run.

It does not make all calls fit. A view can be such that no call of it fits, and the rules of strict
mode look only at what is in the signature and how it is annotated. A parameter may take positions
only or gather them, and a signature need not show that a parameter has its value already.
-/

namespace UriRouting

structure Strict.Admits (route : Route) (view : View) : Prop where
  checked : Strict.check view route = .ok ()
  planned : ∃ plan, view.plan = .ok plan

def View.ReadsAll (view : View) (validator : Validator) (found : Match) : Prop :=
  ∃ left hints, view.signature = .ok left ∧ view.hints = .ok hints ∧
    ∀ model ∈ askedModels left hints, ∃ record, validator model found.allParams = .ok record

theorem View.readsAll_iff {view : View} {plan : Plan} (planned : view.plan = .ok plan)
    {validator : Validator} {found : Match} :
    view.ReadsAll validator found ↔ ∃ given, plan.keywords validator found = .ok given := by
  obtain ⟨left, hints, known, hinted, rfl⟩ := View.plan_eq_ok_iff.mp planned
  rw [Plan.exists_keywords_iff]
  constructor
  · rintro ⟨others, meanings, alike, same, reads⟩
    obtain rfl := Except.ok.inj (known.symm.trans alike)
    obtain rfl := Except.ok.inj (hinted.symm.trans same)
    exact reads
  · intro reads
    exact ⟨left, hints, known, hinted, reads⟩

namespace Router

/-- A call of a view that was taken for a route, with what has all placeholders of the route, fails
for its arguments exactly if its models could be read and no such call fits. -/
theorem follow_eq_misfit_iff {route : Route} {view : View} (admitted : Strict.Admits route view)
    {found : Match} (present : ∀ name ∈ route.placeholders, name ∈ found.routeParams.keys)
    (validator : Validator) :
    follow validator view found = .error (.failed .misfit) ↔
      view.ReadsAll validator found ∧ view.IsUncallable := by
  obtain ⟨plan, planned⟩ := admitted.planned
  have called : follow validator view found = .error (.failed .misfit) ↔
      plan.call validator found = .error .misfit := by
    rw [follow_of_plan planned]
    cases plan.call validator found <;> simp [Except.mapError]
  have names : ∀ {given : Params Value}, plan.keywords validator found = .ok given →
      (plan.view.call given = .error .misfit ↔ view.IsUncallable) := by
    intro given read
    obtain ⟨same, left, known, keys⟩ := mem_keys_of_check admitted.checked planned present read
    rw [same, View.call_eq_misfit_iff_isUncallable known keys]
  rw [called, Plan.call, bind_eq_error_iff, or_iff_right (plan.keywords_ne_misfit validator found),
    view.readsAll_iff planned]
  constructor
  · rintro ⟨given, read, fails⟩
    exact ⟨⟨given, read⟩, (names read).mp fails⟩
  · rintro ⟨⟨given, read⟩, uncallable⟩
    exact ⟨given, read, (names read).mpr uncallable⟩

structure IsStrict (router : Router) : Prop where
  mounts : ∀ mount ∈ router.mounts, Strict.Admits mount.route mount.view
  fallback : ∀ view ∈ router.fallback?, Strict.Admits .blank view

section Navigating

variable {router : Router} {uri : String} {view : View} {found : Match}

theorem IsStrict.admits_of_leadsTo (strict : router.IsStrict)
    (leads : router.LeadsTo uri view found) :
    ∃ route, Strict.Admits route view ∧
      ∀ name ∈ route.placeholders, name ∈ found.routeParams.keys := by
  rcases leads with ⟨place, mount, resolved, rfl⟩ | ⟨resolved, fallback, rfl⟩
  · obtain ⟨member, matched⟩ := mem_of_firstMatch resolved
    refine ⟨mount.route, strict.mounts mount member, fun name inside => ?_⟩
    rw [Route.keys_of_matchUri matched, List.mem_eraseDups]
    exact inside
  · have none : Route.blank.placeholders = [] := rfl
    refine ⟨.blank, strict.fallback view fallback, fun name inside => ?_⟩
    rw [none] at inside
    cases inside

theorem IsStrict.navigate_eq_misfit_iff (strict : router.IsStrict) (validator : Validator)
    (uri : String) :
    router.navigate validator uri = .error (.failed .misfit) ↔
      ∃ view found, router.LeadsTo uri view found ∧ view.ReadsAll validator found ∧
        view.IsUncallable := by
  have followed : ∀ view found, router.LeadsTo uri view found →
      (router.navigate validator uri = .error (.failed .misfit) ↔
        view.ReadsAll validator found ∧ view.IsUncallable) := by
    intro view found leads
    obtain ⟨route, admitted, present⟩ := strict.admits_of_leadsTo leads
    rw [navigate_of_leadsTo leads, follow_eq_misfit_iff admitted present]
  constructor
  · intro failed
    rcases router.leadsTo_or_error validator uri with
      ⟨view, found, leads⟩ | missing | ⟨fault, faulty⟩
    · exact ⟨view, found, leads, (followed view found leads).mp failed⟩
    · rw [missing] at failed
      cases failed
    · rw [faulty] at failed
      cases failed
  · rintro ⟨view, found, leads, read, uncallable⟩
    exact (followed view found leads).mpr ⟨read, uncallable⟩

end Navigating

section Running

variable {router : Router}

theorem admits_of_examine {route : Route} {view : View} (strict : router.strict = true)
    (examined : router.examine route view = .ok ()) : Strict.Admits route view := by
  rw [examine, if_pos strict] at examined
  obtain ⟨⟨⟩, checked, known⟩ := bind_eq_ok_iff.mp examined
  refine ⟨checked, ?_⟩
  cases planned : view.plan with
  | error refusal => simp [planned] at known
  | ok plan => exact ⟨plan, rfl⟩

theorem IsStrict.mount {after : Router} {route : Route} {view : View} (sound : router.IsStrict)
    (strict : router.strict = true) (mounted : router.mount route view = .ok after) :
    after.IsStrict := by
  obtain ⟨⟨⟩, examined, changed⟩ := bind_eq_ok_iff.mp mounted
  obtain rfl := Except.ok.inj changed
  refine ⟨fun mount member => ?_, sound.fallback⟩
  rcases List.mem_append.mp member with old | new
  · exact sound.mounts mount old
  · obtain rfl := List.mem_singleton.mp new
    exact admits_of_examine strict examined

theorem IsStrict.setFallback {after : Router} {view? : Option View} (sound : router.IsStrict)
    (strict : view?.isSome = true → router.strict = true)
    (changed : router.setFallback view? = .ok after) : after.IsStrict := by
  cases view? with
  | none =>
      obtain rfl := Except.ok.inj changed
      exact ⟨sound.mounts, by simp⟩
  | some view =>
      obtain ⟨⟨⟩, examined, made⟩ := bind_eq_ok_iff.mp changed
      obtain rfl := Except.ok.inj made
      refine ⟨sound.mounts, fun other same => ?_⟩
      obtain rfl := Option.some.inj same
      exact admits_of_examine (strict rfl) examined

theorem IsStrict.of_make {fallback? : Option View} (made : make true fallback? = .ok router) :
    router.IsStrict :=
  setFallback ⟨by simp [empty], by simp [empty]⟩ (fun _ => rfl) made

def Operation.takesView : Operation → Bool
  | .mount _ _ => true
  | .setFallback view? => view?.isSome
  | .setStrict _ | .resolve _ | .navigate _ => false

def Operation.strictAfter (strict : Bool) : Operation → Bool
  | .setStrict switched => switched
  | .mount _ _ | .setFallback _ | .resolve _ | .navigate _ => strict

/-- Whether strict mode is on each time a view is taken, if it is on or off at first. -/
def StaysStrict (strict : Bool) : List Operation → Prop
  | [] => True
  | operation :: later =>
    (operation.takesView = true → strict = true) ∧ StaysStrict (operation.strictAfter strict) later

theorem strict_perform (validator : Validator) (operation : Operation) :
    (router.perform validator operation).1.strict = operation.strictAfter router.strict := by
  have step := congrArg Router.strict (perform_fst_eq validator router operation)
  rw [step]
  cases operation <;> rfl

/-- No operation makes a strict router take what it should not; a refused one changes nothing. -/
theorem IsStrict.perform {operation : Operation} (sound : router.IsStrict)
    (strict : operation.takesView = true → router.strict = true) (validator : Validator) :
    (router.perform validator operation).1.IsStrict := by
  cases operation with
  | mount route view =>
      cases mounted : router.mount route view with
      | error rejection => simpa [Router.perform, mounted, settle] using sound
      | ok after => simpa [Router.perform, mounted, settle] using sound.mount (strict rfl) mounted
  | setFallback view? =>
      cases changed : router.setFallback view? with
      | error rejection => simpa [Router.perform, changed, settle] using sound
      | ok after => simpa [Router.perform, changed, settle] using sound.setFallback strict changed
  | setStrict => exact ⟨sound.mounts, sound.fallback⟩
  | resolve | navigate => exact sound

theorem IsStrict.run {operations : List Operation} (sound : router.IsStrict)
    (strict : StaysStrict router.strict operations) (validator : Validator) :
    (router.run validator operations).1.IsStrict := by
  induction operations generalizing router with
  | nil => exact sound
  | cons operation later ih =>
      have stays := strict.2
      rw [← strict_perform validator operation] at stays
      rw [fst_run_cons]
      exact ih (sound.perform strict.1 validator) stays

end Running

end Router

namespace Dispatcher

open Router (Operation Reply StaysStrict)

/-- The parameter of this view has a value by position when it is given one by name. Its signature
does not show this, for what is given by name could be collected. -/
def shadowing : View :=
  ((View.plain (.function "m" {
      parameters := [⟨"a", .standard, none⟩, ⟨"match", .collecting, none⟩]
      distinct := by decide
      ordered := by decide
    } (.ofList [("a", .direct .text), ("match", .direct .found)]) .empty)).withArguments true
      [.text "x"] .empty "<p>").withArguments true [] (.ofList [("a", .text "z")]) "<p>"

def singleView (kind : ParameterKind) : View :=
  .plain (.function "m" {
      parameters := [⟨"q", kind, none⟩]
      distinct := by simp
      ordered := by simp
    } (.ofList [("q", .direct .text)]) .empty)

/-- A run that takes the first of these views, and turns strict mode off afterwards. -/
def shadowingRun : List Operation :=
  [.mount ⟨1, .fixed, "/{q}"⟩ shadowing, .setStrict false, .resolve "/1"]

/-- After a run in strict mode, a URI never leads to a view that cannot be used. A call fails for its
arguments exactly if it is that of a view which no call fits, and if a view tells what it calls, there
are three ways to be such a view. -/
theorem navigate_of_strict_run {fallback? : Option View} {start : Dispatcher}
    (made : make true fallback? = .ok start) {operations : List Operation}
    (strict : StaysStrict true operations) (validator : Validator) (uri : String) :
    let final := (start.run validator operations).1
    let reply := (final.perform validator (.navigate uri)).2
    (∀ refusal, reply ≠ .navigated (.error (.refused refusal))) ∧
      (reply = .navigated (.error (.failed .misfit)) ↔
        ∃ view found, final.router.LeadsTo uri view found ∧ view.ReadsAll validator found ∧
          view.IsUncallable) ∧
      ∀ view found, final.router.LeadsTo uri view found →
        (∀ body ∈ view.callee.bodies, view.callee.Tells body) →
        ∃ left, view.signature = .ok left ∧
          (view.IsUncallable ↔ ∃ body ∈ view.callee.bodies, view.Blocks body left) := by
  intro final reply
  obtain ⟨ready, plain⟩ := ready_of_make made
  obtain ⟨readyFinal, same⟩ := ready.run validator operations
  have sound : final.router.IsStrict := by
    have first : start.router.strict = true := congrArg Router.strict (Router.eq_of_make plain)
    rw [← first] at strict
    have whole := (Router.IsStrict.of_make plain).run strict validator
    rwa [same] at whole
  have followed : reply = .navigated (final.router.navigate validator uri) :=
    congrArg Prod.snd (readyFinal.perform_navigate validator uri)
  refine ⟨?_, ?_, ?_⟩
  · intro refusal refused
    rw [followed] at refused
    exact readyFinal.navigate_ne_refused validator uri refusal (Reply.navigated.inj refused)
  · rw [followed, Reply.navigated.injEq, sound.navigate_eq_misfit_iff]
  · intro view found leads tells
    obtain ⟨route, admitted, -⟩ := sound.admits_of_leadsTo leads
    obtain ⟨-, left, -, known, -⟩ := Strict.rules_of_check admitted.checked
    exact ⟨left, known, View.isUncallable_iff_blocks tells known⟩

theorem navigate_of_shadowingRun :
    ∃ start, make true none = .ok start ∧
      let final := (start.run .demanding shadowingRun).1
      (∀ refusal, (final.perform .demanding (.navigate "/1")).2 ≠
          .navigated (.error (.refused refusal))) ∧
        ∃ view found, final.router.LeadsTo "/1" view found ∧ view.ReadsAll .demanding found ∧
          view.IsUncallable := by
  have made : make true none = .ok ⟨.empty true, []⟩ := rfl
  have strict : StaysStrict true shadowingRun := ⟨fun _ => rfl, nofun, nofun, trivial⟩
  obtain ⟨usable, misfit, -⟩ := navigate_of_strict_run made strict .demanding "/1"
  exact ⟨_, made, usable, misfit.mp (by rfl)⟩

/-- A run in strict mode may lead to each of these views, although no call of it fits. -/
theorem misfit_after_strict_run :
    make true none = .ok ⟨.empty true, []⟩ ∧
      ∀ view ∈ [shadowing, singleView .positionalOnly, singleView .variadic],
        StaysStrict true [.mount ⟨1, .fixed, "/{q}"⟩ view] ∧
          ∀ validator : Validator,
            ((run validator ⟨.empty true, []⟩ [.mount ⟨1, .fixed, "/{q}"⟩ view]).1.perform validator
              (.navigate "/1")).2 = .navigated (.error (.failed .misfit)) := by
  refine ⟨rfl, ?_⟩
  simp only [List.forall_mem_cons, List.not_mem_nil, false_imp_iff, implies_true, and_true]
  exact ⟨⟨⟨fun _ => rfl, trivial⟩, fun _ => rfl⟩, ⟨⟨fun _ => rfl, trivial⟩, fun _ => rfl⟩,
    ⟨⟨fun _ => rfl, trivial⟩, fun _ => rfl⟩⟩

end Dispatcher

end UriRouting
