import Mathlib
import UriRouting.Proofs.View.Giving

/-! # What the parameters of a view hold in a call

A call that fits gives every parameter what is there for it: the value of its position, or else the
value under its name, where the call comes before what was bound, or else its default. A parameter
that gathers holds the values by position that are left over, and one that collects those under names
that no other parameter takes.
-/

namespace UriRouting

/-- Whether an entry is what a parameter holds that has no value of its own by position. -/
def IsHeld (extra : List Value) (collected keywords : Params Value) (parameter : Parameter)
    (entry : String × Argument) : Prop :=
  entry.1 = parameter.name ∧ parameter.held? extra collected keywords = some entry.2

section Holding

variable {extra : List Value} {collected keywords : Params Value} {parameters : List Parameter}
  {held : List (String × Argument)}

theorem map_fst_of_isHeld
    (related : List.Forall₂ (IsHeld extra collected keywords) parameters held) :
    held.map Prod.fst = parameters.map Parameter.name :=
  map_eq_of_forall₂ related fun _ _ _ same => same.1

theorem lookup_of_isHeld
    (related : List.Forall₂ (IsHeld extra collected keywords) parameters held)
    (distinct : (parameters.map Parameter.name).Nodup) {parameter : Parameter}
    (member : parameter ∈ parameters) :
    held.lookup parameter.name = parameter.held? extra collected keywords := by
  induction related with
  | nil => cases member
  | @cons first entry parameters held is later ih =>
      obtain ⟨name, argument⟩ := entry
      obtain ⟨rfl, holds⟩ := is
      rw [List.map_cons, List.nodup_cons] at distinct
      rw [List.lookup_cons]
      rcases List.mem_cons.mp member with rfl | member
      · rw [beq_self_eq_true, holds]
      · have differs : (parameter.name == first.name) = false := by
          rw [beq_eq_false_iff_ne]
          exact fun same => distinct.1 (same ▸ List.mem_map_of_mem member)
        rw [differs]
        exact ih distinct.2 member

end Holding

namespace Signature

variable {signature : Signature} {positional : List Value} {keywords : Params Value}
  {arguments : List (String × Argument)}

def extra (signature : Signature) (positional : List Value) : List Value :=
  positional.drop (leading signature.parameters).length

theorem fill?_eq_some (done : signature.fill? positional keywords = some arguments) :
    ∃ held, arguments = ((filled positional.length signature.parameters).map Parameter.name).zip
        (positional.map Argument.single) ++ held ∧
      List.Forall₂ (IsHeld (signature.extra positional) (signature.unclaimed keywords) keywords)
        (unfilled positional.length signature.parameters) held := by
  simp only [fill?] at done
  split at done
  · obtain ⟨held, mapped, rfl⟩ := Option.map_eq_some_iff.mp done
    refine ⟨held, rfl, (mapM_eq_some_iff.mp mapped).imp fun parameter entry made => ?_⟩
    obtain ⟨argument, holds, rfl⟩ := Option.map_eq_some_iff.mp made
    exact ⟨rfl, holds⟩
  · cases done

theorem not_misfits_of_fill? (done : signature.fill? positional keywords = some arguments) :
    ¬ signature.Misfits positional.length (· ∈ keywords.keys) := by
  rw [← fill?_eq_none_iff, done]
  exact Option.some_ne_none _

theorem length_filled_le (signature : Signature) (positional : List Value) :
    (filled positional.length signature.parameters).length ≤ positional.length := by
  rw [length_filled]
  exact Nat.min_le_left _ _

theorem exists_collects_of_fill? (done : signature.fill? positional keywords = some arguments)
    {name : String} (given : name ∈ keywords.keys) (untaken : signature.takes name = false) :
    ∃ parameter ∈ signature.parameters, parameter.collects = true := by
  by_contra none
  apply not_misfits_of_fill? done
  refine .unclaimed name given untaken fun parameter member => ?_
  rw [← Bool.not_eq_true]
  exact fun collects => none ⟨parameter, member, collects⟩

theorem lookup_of_fill? (done : signature.fill? positional keywords = some arguments)
    {parameter : Parameter} (member : parameter ∈ unfilled positional.length signature.parameters) :
    arguments.lookup parameter.name =
      parameter.held? (signature.extra positional) (signature.unclaimed keywords) keywords := by
  obtain ⟨held, rfl, related⟩ := fill?_eq_some done
  have distinct := signature.distinct
  rw [← filled_append_unfilled positional.length signature.parameters, List.map_append] at distinct
  obtain ⟨-, later, apart⟩ := List.nodup_append.mp distinct
  rw [List.lookup_append, lookup_eq_none_iff.mpr, Option.none_or]
  · exact lookup_of_isHeld related later member
  · intro early
    rw [List.map_fst_zip (by simpa using signature.length_filled_le positional)] at early
    exact apart _ early _ (List.mem_map_of_mem member) rfl

/-- What a parameter holds is a value by position, or it is what there is for it otherwise. -/
theorem cases_of_mem_fill? (done : signature.fill? positional keywords = some arguments)
    {entry : String × Argument} (member : entry ∈ arguments) :
    (∃ value ∈ positional, entry.2 = .single value) ∨
      ∃ parameter ∈ unfilled positional.length signature.parameters,
        IsHeld (signature.extra positional) (signature.unclaimed keywords) keywords parameter
          entry := by
  obtain ⟨held, rfl, related⟩ := fill?_eq_some done
  obtain ⟨name, argument⟩ := entry
  rcases List.mem_append.mp member with bound | inside
  · obtain ⟨value, given, same⟩ := List.mem_map.mp (List.of_mem_zip bound).2
    exact .inl ⟨value, given, same.symm⟩
  · exact .inr (exists_of_forall₂_right related inside)

end Signature

namespace View

theorem call_eq_ok_iff {view : View} {given : Params Value} {outcome : Outcome} :
    view.call given = .ok outcome ↔ outcome.callee = view.callee ∧
      List.Forall₂ (fun body held =>
        body.signature.fill? (view.positional body) (view.named body given) = some held)
        view.callee.bodies outcome.arguments := by
  rw [← mapM_eq_some_iff, call]
  obtain ⟨callee, arguments⟩ := outcome
  split
  · rename_i made filled
    simp [filled, eq_comm]
  · rename_i failed
    simp [failed]

theorem call_ne_invalidModel {view : View} {given : Params Value} (fault : ModelFault) :
    view.call given ≠ .error (.invalidModel fault) := by
  rw [call]
  split <;> simp

theorem get?_named (view : View) (body : Body) (given : Params Value) (name : String) :
    (view.named body given).get? name =
      (given.get? name).or (((view.keywords.get? name).or (body.preset.get? name)).map
        Value.scalar) := by
  rw [named, Params.get?_overlay, Params.get?_map, Params.get?_overlay]

end View

theorem lookup_filterMap_pair {α : Type} (names : List String) (value? : String → Option α)
    (name : String) :
    (names.filterMap fun other => (value? other).map (other, ·)).lookup name =
      if name ∈ names then value? name else none := by
  induction names with
  | nil => rfl
  | cons other names ih =>
      by_cases same : name = other
      · subst same
        cases value : value? name with
        | none => simp [value, ih]
        | some found => simp [value]
      · have differs : (name == other) = false := by simpa using same
        cases value : value? other with
        | none => simp [value, ih, same]
        | some found => simp [value, List.lookup_cons, differs, ih, same]

/-- What a match gives to a parameter. -/
def Match.gives? (validator : Validator) (found : Match) (hints : Params Hint) (name : String) :
    Option Value :=
  if name = matchName then some (.found found)
  else
    match (hints.get? name).bind Hint.model? with
    | some model => (validator model found.allParams).toOption.map Value.record
    | none => (found.allParams.get? name).map fun text => .scalar (.text text)

theorem eq_of_mapM_readModel {validator : Validator} {params : Params String} {names : List String}
    {wanted : String → Option Model} {records : List (String × Value)}
    (read : (names.filterMap fun name => (wanted name).map (name, ·)).mapM
      (readModel validator params) = .ok records) :
    records = names.filterMap fun name => ((wanted name).bind fun model =>
      (validator model params).toOption.map Value.record).map (name, ·) := by
  induction names generalizing records with
  | nil => exact (Except.ok.inj read).symm
  | cons name names ih =>
      cases asked : wanted name with
      | none =>
          rw [List.filterMap_cons_none (by rw [asked]; rfl)] at read ⊢
          exact ih read
      | some model =>
          rw [List.filterMap_cons_some (by rw [asked]; rfl), List.mapM_cons] at read
          obtain ⟨first, made, rest⟩ := bind_eq_ok_iff.mp read
          obtain ⟨others, behind, whole⟩ := bind_eq_ok_iff.mp rest
          obtain rfl := Except.ok.inj whole
          unfold readModel at made
          cases record : validator model params with
          | error fault => simp [record] at made
          | ok value =>
              simp only [record, Except.ok.injEq] at made
              rw [List.filterMap_cons_some (by rw [asked, Option.bind_some, record]; rfl), ← made,
                ← ih behind]

theorem lookup_reverse_itself (names : List String) (value : Value) (name : String) :
    (if names.contains matchName then [(matchName, value)] else []).reverse.lookup name =
      if name ∈ names ∧ name = matchName then some value else none := by
  by_cases itself : name = matchName
  · subst itself
    by_cases member : matchName ∈ names <;> simp [member]
  · have differs : (name == matchName) = false := by simpa using itself
    split <;> simp [List.lookup_cons, differs, itself]

/-- A view is given values under the names of its signature only, each for its own reason. -/
theorem Plan.get?_keywords {validator : Validator} {view : View} {left : List Parameter}
    {hints : Params Hint} {found : Match} {given : Params Value}
    (read : (Plan.make view left hints).keywords validator found = .ok given) (name : String) :
    given.get? name =
      if name ∈ left.map Parameter.name then found.gives? validator hints name else none := by
  obtain ⟨records, parts, made⟩ := bind_eq_ok_iff.mp read
  obtain rfl := Except.ok.inj made
  have texts : ((Plan.make view left hints).names.filterMap fun name =>
        (found.allParams.get? name).map fun text => (name, Value.scalar (.text text))) =
      (Plan.make view left hints).names.filterMap fun name =>
        ((found.allParams.get? name).map fun text => Value.scalar (.text text)).map (name, ·) := by
    simp only [Option.map_map, Function.comp_def]
  rw [Params.get?_ofList, List.reverse_append, List.reverse_append, List.lookup_append,
    List.lookup_append, texts, eq_of_mapM_readModel parts, ← List.filterMap_reverse,
    ← List.filterMap_reverse, lookup_filterMap_pair, lookup_filterMap_pair, Plan.make,
    lookup_reverse_itself]
  simp only [List.mem_reverse, List.mem_filter, Match.gives?]
  generalize left.map Parameter.name = names
  by_cases member : name ∈ names
  · by_cases itself : name = matchName
    · subst itself
      simp [member]
    · cases wanted : (hints.get? name).bind Hint.model? <;> simp [member, itself]
  · simp [member]

end UriRouting
