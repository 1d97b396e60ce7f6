import Mathlib
import UriRouting.Strict
import UriRouting.Proofs.Failure
import UriRouting.Proofs.View.Calling

/-! # What a match gives to a view

A view that strict mode accepts for a route gets a value under each name of its signature from every
match of that route. This is what the rules are for: a parameter that is no placeholder, no match and
no model would have no value, and no rule lets it pass.
-/

namespace UriRouting

theorem mem_map_fst_filterMap {α : Type} {names : List String} {value? : String → Option α}
    {name : String} :
    name ∈ (names.filterMap fun other => (value? other).map (other, ·)).map Prod.fst ↔
      name ∈ names ∧ ∃ value, value? name = some value := by
  rw [List.mem_map]
  constructor
  · rintro ⟨entry, member, rfl⟩
    obtain ⟨other, inside, made⟩ := List.mem_filterMap.mp member
    obtain ⟨value, found, rfl⟩ := Option.map_eq_some_iff.mp made
    exact ⟨inside, value, found⟩
  · rintro ⟨inside, value, found⟩
    exact ⟨(name, value), List.mem_filterMap.mpr ⟨name, inside, by rw [found]; rfl⟩, rfl⟩

/-- A validator that wants a text for every field of a model. -/
def Validator.demanding : Validator := fun model params =>
  match model.fields.find? fun name => (params.get? name).isNone with
  | some name => .error ⟨model, name⟩
  | none => .ok ⟨model, model.fields.foldl (fun text name => text ++ params.getD name "") ""⟩

theorem Validator.demanding_ignoresUnknown : Validator.demanding.IgnoresUnknown := by
  intro model params name text unknown
  have same : ∀ field ∈ model.fields, (params.insert name text).get? field = params.get? field := by
    intro field member
    refine Params.get?_insert_of_ne ?_ params text
    rintro rfl
    exact unknown member
  have found : (model.fields.find? fun field => ((params.insert name text).get? field).isNone) =
      model.fields.find? fun field => (params.get? field).isNone := by
    generalize model.fields = fields at same
    induction fields with
    | nil => rfl
    | cons field later ih =>
        rw [List.find?_cons, List.find?_cons, same field List.mem_cons_self,
          ih fun other member => same other (List.mem_cons_of_mem _ member)]
  have content : model.fields.foldl
        (fun text' field => text' ++ (params.insert name text).getD field "") "" =
      model.fields.foldl (fun text' field => text' ++ params.getD field "") "" := by
    apply List.foldl_ext
    intro made field member
    rw [Params.getD, Params.getD, same field member]
  rw [demanding, demanding, found, content]

section

variable {validator : Validator} {params : Params String}

theorem readModel_ne_misfit (asked : String × Model) :
    readModel validator params asked ≠ .error .misfit := by
  unfold readModel
  cases validator asked.2 params <;> simp

theorem fst_of_readModel {asked : String × Model} {entry : String × Value}
    (read : readModel validator params asked = .ok entry) : entry.1 = asked.1 := by
  unfold readModel at read
  cases made : validator asked.2 params with
  | error fault => simp [made] at read
  | ok record =>
      simp only [made, Except.ok.injEq] at read
      rw [← read]

theorem map_fst_of_mapM_readModel {asked : List (String × Model)} {records : List (String × Value)}
    (read : asked.mapM (readModel validator params) = .ok records) :
    records.map Prod.fst = asked.map Prod.fst := by
  rw [mapM_eq_ok_iff] at read
  induction read with
  | nil => rfl
  | cons first _ ih => rw [List.map_cons, List.map_cons, fst_of_readModel first, ih]

end

def askedModels (left : List Parameter) (hints : Params Hint) : List Model :=
  left.filterMap fun parameter => (hints.get? parameter.name).bind Hint.model?

namespace Plan

theorem map_snd_models (view : View) (left : List Parameter) (hints : Params Hint) :
    (Plan.make view left hints).models.map Prod.snd = askedModels left hints := by
  simp only [Plan.make, askedModels, List.map_filterMap, List.filterMap_map, Function.comp_def,
    Option.map_map, Option.map_id']

theorem mapM_readModel_eq (validator : Validator) (params : Params String)
    (asked : List (String × Model)) :
    asked.mapM (readModel validator params) =
      match (asked.map Prod.snd).mapM fun model => validator model params with
      | .ok records => .ok ((asked.map Prod.fst).zip (records.map Value.record))
      | .error fault => .error (.invalidModel fault) := by
  induction asked with
  | nil => rfl
  | cons entry later ih =>
      rw [List.mapM_cons, List.map_cons, List.map_cons, List.mapM_cons, ih, readModel]
      cases validator entry.2 params with
      | error fault => rfl
      | ok record =>
          cases (later.map Prod.snd).mapM fun model => validator model params <;> rfl

theorem exists_keywords_iff {validator : Validator} {view : View} {left : List Parameter}
    {hints : Params Hint} {found : Match} :
    (∃ given, (Plan.make view left hints).keywords validator found = .ok given) ↔
      ∀ model ∈ askedModels left hints, ∃ record, validator model found.allParams = .ok record := by
  rw [← exists_mapM_eq_ok_iff, ← map_snd_models view, keywords, mapM_readModel_eq]
  cases ((Plan.make view left hints).models.map Prod.snd).mapM fun model =>
      validator model found.allParams with
  | error fault => exact iff_of_false nofun nofun
  | ok records => exact iff_of_true ⟨_, rfl⟩ ⟨records, rfl⟩

theorem keywords_ne_misfit (validator : Validator) (plan : Plan) (found : Match) :
    plan.keywords validator found ≠ .error .misfit := by
  intro failed
  rcases bind_eq_error_iff.mp failed with unread | ⟨records, -, impossible⟩
  · obtain ⟨before, asked, -, -, -, fails⟩ := mapM_eq_error_iff.mp unread
    exact readModel_ne_misfit _ fails
  · cases impossible

/-- The names under which a view is given values: parameters that hold texts and have one in the
match, parameters that ask for models, and the one for the match. -/
theorem mem_keys_keywords {validator : Validator} {plan : Plan} {found : Match}
    {given : Params Value} (read : plan.keywords validator found = .ok given) (name : String) :
    name ∈ given.keys ↔
      (name ∈ plan.names ∧ name ∈ found.allParams.keys) ∨
        name ∈ plan.models.map Prod.fst ∨ plan.wantsMatch = true ∧ name = matchName := by
  obtain ⟨records, parts, made⟩ := bind_eq_ok_iff.mp read
  obtain rfl := Except.ok.inj made
  have texts : ∀ text : String → Value, name ∈ (plan.names.filterMap fun other =>
        (found.allParams.get? other).map fun value => (other, text value)).map Prod.fst ↔
      name ∈ plan.names ∧ name ∈ found.allParams.keys := by
    intro text
    have pairs : name ∈ (plan.names.filterMap fun other =>
        ((found.allParams.get? other).map text).map (other, ·)).map Prod.fst ↔ _ :=
      mem_map_fst_filterMap
    simp only [Option.map_map, Function.comp_def] at pairs
    rw [pairs, Params.mem_keys_iff]
    simp
  rw [Params.keys_ofList, List.mem_eraseDups, List.map_append, List.map_append, List.mem_append,
    List.mem_append, texts, map_fst_of_mapM_readModel parts, or_assoc]
  cases plan.wantsMatch <;> simp

end Plan

namespace Strict

theorem rules_of_check {view : View} {route : Route} (accepted : check view route = .ok ()) :
    ∃ hints left, view.hints = .ok hints ∧ view.signature = .ok left ∧
      ∀ parameter ∈ left,
        broken? route.placeholders parameter.name (hints.get? parameter.name) = none := by
  unfold check at accepted
  cases hinted : view.hints with
  | error refusal => simp [hinted] at accepted
  | ok hints =>
      cases known : view.signature with
      | error refusal => simp [hinted, known] at accepted
      | ok left =>
          simp only [hinted, known] at accepted
          refine ⟨hints, left, rfl, rfl, ?_⟩
          split at accepted
          · cases accepted
          · rename_i none
            intro parameter member
            have fine := List.findSome?_eq_none_iff.mp none parameter.name
              (List.mem_map_of_mem member)
            exact Option.map_eq_none_iff.mp fine

theorem cases_of_not_broken {placeholders : List String} {name : String} {hint? : Option Hint}
    (fine : broken? placeholders name hint? = none) :
    name ∈ placeholders ∨ name = matchName ∨ ∃ model, hint?.bind Hint.model? = some model := by
  cases hint? with
  | none => cases fine
  | some hint =>
      by_cases placeholder : name ∈ placeholders
      · exact .inl placeholder
      · by_cases itself : name = matchName
        · exact .inr (.inl itself)
        · refine .inr (.inr (Option.isSome_iff_exists.mp ?_))
          by_contra other
          rw [Option.bind_some] at other
          simp [broken?, placeholder, itself, Hint.isModel, other] at fine

end Strict

theorem View.plan_eq_ok_iff {view : View} {plan : Plan} :
    view.plan = .ok plan ↔ ∃ left hints, view.signature = .ok left ∧ view.hints = .ok hints ∧
      plan = Plan.make view left hints := by
  constructor
  · intro planned
    obtain ⟨left, known, rest⟩ := bind_eq_ok_iff.mp planned
    obtain ⟨hints, hinted, made⟩ := bind_eq_ok_iff.mp rest
    exact ⟨left, hints, known, hinted, (Except.ok.inj made).symm⟩
  · rintro ⟨left, hints, known, hinted, rfl⟩
    rw [plan, known, hinted]
    rfl

/-- A view that is accepted for a route is given all names of its signature, and no others, by what
has all placeholders of the route. -/
theorem mem_keys_of_check {view : View} {route : Route}
    (accepted : Strict.check view route = .ok ()) {plan : Plan} (planned : view.plan = .ok plan)
    {found : Match} (present : ∀ name ∈ route.placeholders, name ∈ found.routeParams.keys)
    {validator : Validator} {given : Params Value}
    (read : plan.keywords validator found = .ok given) :
    plan.view = view ∧ ∃ left, view.signature = .ok left ∧
      ∀ name, name ∈ given.keys ↔ name ∈ left.map Parameter.name := by
  obtain ⟨hints, left, hinted, known, fine⟩ := Strict.rules_of_check accepted
  have made := View.plan_eq_ok_iff.mpr ⟨left, hints, known, hinted, rfl⟩
  obtain rfl := Except.ok.inj (planned.symm.trans made)
  refine ⟨rfl, left, known, fun name => ?_⟩
  rw [Plan.mem_keys_keywords read, Plan.make, mem_map_fst_filterMap]
  constructor
  · rintro (⟨member, -⟩ | ⟨member, -⟩ | ⟨wanted, rfl⟩)
    · exact (List.mem_filter.mp member).1
    · exact member
    · exact List.contains_iff_mem.mp wanted
  · intro member
    obtain ⟨parameter, inside, rfl⟩ := List.mem_map.mp member
    by_cases itself : parameter.name = matchName
    · exact .inr (.inr ⟨List.contains_iff_mem.mpr (itself ▸ member), itself⟩)
    · cases wanted : (hints.get? parameter.name).bind Hint.model? with
      | some model => exact .inr (.inl ⟨member, model, rfl⟩)
      | none =>
          have placeholder : parameter.name ∈ route.placeholders := by
            simpa [itself, wanted] using Strict.cases_of_not_broken (fine parameter inside)
          refine .inl ⟨List.mem_filter.mpr ⟨member, by simp [itself, wanted]⟩, ?_⟩
          exact (Params.mem_keys_overlay _ _ _).mpr (.inl (present _ placeholder))

end UriRouting
