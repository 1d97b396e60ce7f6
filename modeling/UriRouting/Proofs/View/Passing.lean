import Mathlib
import UriRouting.Proofs.View.Arguments

/-! # What exactly a call passes

First the models are read, in the order of the parameters that ask for them, and the first one that
cannot be read is the answer. After that each parameter of the signature is supplied by the match,
and what was bound counts for the names that are not supplied. Nothing reaches a view besides; but
what was bound under a name that no parameter takes comes together with what is supplied in the
parameter that collects.

What fits is decided by the parameters of what is called, which need not be those of the signature.
Even where they are, a signature that looks complete may belong to a view that cannot be called.
-/

namespace UriRouting

def Match.supplies? (validator : Validator) (found : Match) (left : List Parameter)
    (hints : Params Hint) (name : String) : Option Value :=
  if name ∈ left.map Parameter.name then found.gives? validator hints name else none

/-- The value that there is under a name for a body of a view. What is supplied comes before what was
bound. -/
def View.value? (view : View) (supplied? : String → Option Value) (body : Body) (name : String) :
    Option Value :=
  (supplied? name).or (((view.keywords.get? name).or (body.preset.get? name)).map Value.scalar)

/-- What a parameter gets that has no value of its own by position, when there are values under
names. -/
inductive Parameter.Gets (signature : Signature) (positional : List Value)
    (value? : String → Option Value) (parameter : Parameter) : Argument → Prop where
  | own {value : Value} (takes : parameter.takesName = true)
      (given : value? parameter.name = some value) :
      Gets signature positional value? parameter (.single value)
  | default {value : Scalar} (own : parameter.gathers = false ∧ parameter.collects = false)
      (absent : parameter.takesName = true → value? parameter.name = none)
      (known : parameter.default? = some value) :
      Gets signature positional value? parameter (.single (.scalar value))
  | extra (gathers : parameter.gathers = true) :
      Gets signature positional value? parameter (.gathered (signature.extra positional))
  | rest {values : Params Value} (collects : parameter.collects = true)
      (untaken : ∀ name, values.get? name = if signature.takes name then none else value? name) :
      Gets signature positional value? parameter (.collected values)

/-- Whether parameters hold what there is for them, by position and by name, and nothing else. -/
structure Signature.Passes (signature : Signature) (positional : List Value)
    (value? : String → Option Value) (arguments : List (String × Argument)) : Prop where
  parameters : arguments.map Prod.fst = signature.parameters.map Parameter.name
  bound : (arguments.take (filled positional.length signature.parameters).length).map Prod.snd =
    (positional.take (leading signature.parameters).length).map .single
  others : List.Forall₂ (fun parameter entry => parameter.Gets signature positional value? entry.2)
    (unfilled positional.length signature.parameters)
    (arguments.drop (filled positional.length signature.parameters).length)

namespace Plan

variable {validator : Validator} {view : View} {left : List Parameter} {hints : Params Hint}
  {found : Match}

theorem keywords_eq_error_of_firstFailure {fault : ModelFault}
    (first : FirstFailure (fun model => validator model found.allParams) (askedModels left hints)
      fault) :
    (Plan.make view left hints).keywords validator found = .error (.invalidModel fault) := by
  rw [← mapM_eq_error_iff, ← map_snd_models view] at first
  rw [keywords, mapM_readModel_eq, first]
  rfl

end Plan

theorem Parameter.gets_of_held? {signature : Signature} {positional : List Value}
    {keywords : Params Value} {parameter : Parameter} {argument : Argument}
    (held : parameter.held? (signature.extra positional) (signature.unclaimed keywords) keywords =
      some argument) : parameter.Gets signature positional keywords.get? argument := by
  rw [Parameter.held?] at held
  cases kind : parameter.kind with
  | collecting =>
      rw [kind] at held
      obtain rfl := Option.some.inj held
      refine .rest (by rw [collects, kind]; rfl) fun name => ?_
      rw [Signature.unclaimed, Params.get?_filterKeys]
      cases signature.takes name <;> rfl
  | variadic =>
      rw [kind] at held
      obtain rfl := Option.some.inj held
      exact .extra (by rw [gathers, kind]; rfl)
  | positionalOnly =>
      rw [kind] at held
      obtain ⟨value, known, rfl⟩ := Option.map_eq_some_iff.mp held
      have nameless : parameter.takesName = false := by
        rw [takesName, kind]
        rfl
      refine .default ?_ (fun takes => ?_) known
      · rw [gathers, collects, kind]
        exact ⟨rfl, rfl⟩
      · rw [nameless] at takes
        cases takes
  | standard | keywordOnly =>
      rw [kind] at held
      obtain ⟨value, known, rfl⟩ := Option.map_eq_some_iff.mp held
      rcases Option.or_eq_some_iff.mp known with given | ⟨absent, default⟩
      · exact .own (by rw [takesName, kind]; rfl) given
      · obtain ⟨scalar, known?, rfl⟩ := Option.map_eq_some_iff.mp default
        refine .default ?_ (fun _ => absent) known?
        rw [gathers, collects, kind]
        exact ⟨rfl, rfl⟩

theorem Signature.passes_of_fill? {signature : Signature} {positional : List Value}
    {keywords : Params Value} {arguments : List (String × Argument)}
    (done : signature.fill? positional keywords = some arguments) :
    signature.Passes positional keywords.get? arguments := by
  obtain ⟨held, rfl, related⟩ := fill?_eq_some done
  have enough := signature.length_filled_le positional
  have front : (((filled positional.length signature.parameters).map Parameter.name).zip
      (positional.map Argument.single)).length =
        (filled positional.length signature.parameters).length := by
    rw [List.length_zip, List.length_map, List.length_map, min_eq_left enough]
  refine ⟨?_, ?_, ?_⟩
  · rw [List.map_append, List.map_fst_zip (by simpa using enough), map_fst_of_isHeld related,
      ← List.map_append, filled_append_unfilled]
  · rw [List.take_left' front, List.zip_eq_zip_take_min, List.map_snd_zip (by simp), List.length_map,
      List.length_map, min_eq_left enough, ← List.map_take, length_filled, List.take_eq_take_iff.mpr]
    omega
  · rw [List.drop_left' front]
    exact related.imp fun parameter entry same => Parameter.gets_of_held? same.2

namespace View

variable {validator : Validator} {view : View} {left : List Parameter} {hints : Params Hint}
  {found : Match} {given : Params Value}

theorem get?_named_eq_value?
    (read : (Plan.make view left hints).keywords validator found = .ok given) (body : Body) :
    (view.named body given).get? =
      view.value? (found.supplies? validator left hints) body := by
  funext name
  rw [get?_named, Plan.get?_keywords read, value?, Match.supplies?]

theorem misfits_iff_of_keywords
    (read : (Plan.make view left hints).keywords validator found = .ok given) (body : Body) :
    view.Misfits body (· ∈ given.keys) ↔
      view.Misfits body (found.supplies? validator left hints · ≠ none) := by
  have present : ∀ name, name ∈ given.keys ↔
      found.supplies? validator left hints name ≠ none := by
    intro name
    rw [Params.mem_keys_iff, ← Option.ne_none_iff_exists', Plan.get?_keywords read, Match.supplies?]
  simp only [present]

end View

/-- Whether a result is that of a call of a view with this signature and these hints. The models are
read first, and then the parameters are given what there is for them, or the call fails because that
does not fit. -/
structure View.Answers (validator : Validator) (view : View) (left : List Parameter)
    (hints : Params Hint) (found : Match) (result : Except CallFailure Outcome) : Prop where
  unread : ∀ fault, FirstFailure (fun model => validator model found.allParams)
    (askedModels left hints) fault → result = .error (.invalidModel fault)
  misfit_iff : (∀ model ∈ askedModels left hints,
      ∃ record, validator model found.allParams = .ok record) →
    (result = .error .misfit ↔ ∃ body ∈ view.callee.bodies,
      view.Misfits body (found.supplies? validator left hints · ≠ none))
  passed : (∀ model ∈ askedModels left hints,
      ∃ record, validator model found.allParams = .ok record) →
    (∀ body ∈ view.callee.bodies,
      ¬ view.Misfits body (found.supplies? validator left hints · ≠ none)) →
    ∃ outcome, result = .ok outcome ∧ outcome.callee = view.callee ∧
      List.Forall₂ (fun body held => body.signature.Passes (view.positional body)
        (view.value? (found.supplies? validator left hints) body) held)
        view.callee.bodies outcome.arguments

theorem View.answers_call {view : View} (left : List Parameter) (hints : Params Hint)
    (validator : Validator) (found : Match) :
    view.Answers validator left hints found ((Plan.make view left hints).call validator found) := by
  constructor
  · intro fault first
    rw [Plan.call, Plan.keywords_eq_error_of_firstFailure first]
    rfl
  · intro fine
    obtain ⟨given, read⟩ := Plan.exists_keywords_iff.mpr fine
    have called : (Plan.make view left hints).call validator found = view.call given := by
      rw [Plan.call, read]
      rfl
    rw [called, View.call_eq_misfit_iff]
    simp only [View.misfits_iff_of_keywords read]
  · intro fine fits
    obtain ⟨given, read⟩ := Plan.exists_keywords_iff.mpr fine
    have called : (Plan.make view left hints).call validator found = view.call given := by
      rw [Plan.call, read]
      rfl
    rw [called]
    cases result : view.call given with
    | ok outcome =>
        obtain ⟨same, filled⟩ := View.call_eq_ok_iff.mp result
        refine ⟨outcome, rfl, same, filled.imp fun body held done => ?_⟩
        rw [← View.get?_named_eq_value? read]
        exact Signature.passes_of_fill? done
    | error failure =>
        cases failure with
        | invalidModel fault => exact absurd result (View.call_ne_invalidModel fault)
        | misfit =>
            obtain ⟨body, member, misfits⟩ := View.call_eq_misfit_iff.mp result
            exact absurd ((View.misfits_iff_of_keywords read body).mp misfits) (fits body member)

/-- Once it is known how to call a view, what a match passes to it is settled by its signature, its
hints, and what has been bound. -/
theorem Plan.call_exact {view : View} {plan : Plan} (planned : view.plan = .ok plan)
    (validator : Validator) :
    ∃ left hints, view.signature = .ok left ∧ view.hints = .ok hints ∧
      ∀ found, view.Answers validator left hints found (plan.call validator found) := by
  obtain ⟨left, hints, known, hinted, rfl⟩ := View.plan_eq_ok_iff.mp planned
  exact ⟨left, hints, known, hinted, View.answers_call left hints validator⟩

/-- A view with arguments bound twice. The first two parameters have their values by position and one
value is left over; one keyword is bound that a match can replace, and one that is nobody's. -/
def layered : View :=
  ((View.plain (.function "show" {
      parameters := [⟨"a", .standard, none⟩, ⟨"b", .standard, none⟩, ⟨"more", .variadic, none⟩,
        ⟨"page", .keywordOnly, none⟩, ⟨"match", .keywordOnly, none⟩,
        ⟨"c", .keywordOnly, some (.text "d")⟩, ⟨"rest", .collecting, none⟩]
      distinct := by decide
      ordered := by decide
    } (.ofList [("b", .direct .text), ("page", .direct (.record ⟨1, "Page", ["n"]⟩)),
      ("match", .direct .found)]) .empty)).withArguments true [.text "x", .text "y", .other "3"]
        (.ofList [("c", .text "bound")]) "<p>").withArguments true []
          (.ofList [("extra", .other "1")]) "<q>"

def renewed : Match :=
  ⟨.ofPattern 1 "/{c}", .ofList [("c", "new")],
    .ofList [("n", "3"), ("match", "no"), ("more", "z"), ("a", "5")]⟩

theorem Plan.call_exact_layered :
    ∃ plan left hints incomplete, layered.plan = .ok plan ∧
      (Route.ofPattern 1 "/{c}").matchUri "/new?n=3&match=no&more=z&a=5" = .ok (some renewed) ∧
      (Route.ofPattern 1 "/{c}").matchUri "/new" = .ok (some incomplete) ∧
      plan.call .demanding incomplete = .error (.invalidModel ⟨⟨1, "Page", ["n"]⟩, "n"⟩) ∧
      ∃ outcome, plan.call .demanding renewed = .ok outcome ∧ outcome.callee = layered.callee ∧
        List.Forall₂
          (fun body held => body.signature.Passes (layered.positional body)
            (layered.value? (renewed.supplies? .demanding left hints) body) held)
          layered.callee.bodies outcome.arguments := by
  obtain ⟨plan, planned⟩ : ∃ plan, layered.plan = .ok plan := ⟨_, rfl⟩
  obtain ⟨left, hints, known, hinted, exact⟩ := Plan.call_exact planned .demanding
  have asked : askedModels left hints = [⟨1, "Page", ["n"]⟩] := by
    obtain rfl := Except.ok.inj known
    obtain rfl := Except.ok.inj hinted
    decide
  have short : (Route.ofPattern 1 "/{c}").matchUri "/new" =
      .ok (some ⟨.ofPattern 1 "/{c}", .ofList [("c", "new")], .empty⟩) := by decide
  refine ⟨plan, left, hints, _, planned, by decide, short, ?_, ?_⟩
  · apply (exact _).unread
    rw [asked, firstFailure_cons_iff]
    exact .inl (by decide)
  · have fine : ∀ model ∈ askedModels left hints,
        ∃ record, Validator.demanding model renewed.allParams = .ok record := by
      rw [asked, List.forall_mem_singleton]
      exact ⟨⟨⟨1, "Page", ["n"]⟩, "3"⟩, by decide⟩
    apply (exact renewed).passed fine
    intro body member misfits
    have failed := ((exact renewed).misfit_iff fine).mpr ⟨body, member, misfits⟩
    obtain rfl := Except.ok.inj planned
    revert failed
    decide

def collecting : View :=
  (View.plain (.function "show" {
      parameters := [⟨"rest", .collecting, none⟩]
      distinct := by decide
      ordered := by decide
    } .empty .empty)).withArguments false [] (.ofList [("x", .text "1")]) "<p>"

/-- What was bound comes together with what is supplied. -/
theorem Plan.call_collecting :
    ∃ plan found, collecting.plan = .ok plan ∧
      (Route.ofPattern 1 "/").matchUri "/?rest=5" = .ok (some found) ∧
      found.allParams.get? "rest" = some "5" ∧
      ∀ validator : Validator, plan.call validator found = .ok ⟨collecting.callee,
        [[("rest", .collected (.ofList [("x", .scalar (.text "1")),
          ("rest", .scalar (.text "5"))]))]]⟩ := by
  refine ⟨_, ⟨.ofPattern 1 "/", .empty, .ofList [("rest", "5")]⟩, rfl, by decide, by decide, ?_⟩
  intro validator
  rfl

end UriRouting
