import Mathlib
import UriRouting.Command.Report
import UriRouting.Proofs.Route.RoundTrip

/-! # Building with and without query parameters

The command that builds a URI takes its values by position. With query parameters it first makes a
map of them, by name, and a map has one value for a name. So a name that occurs twice in a pattern
is filled with two different values: with its first one if there is no query, because that one is
written into all its placeholders, and with its last one if there is a query. Where no name occurs
twice, a query only adds itself, and where the names are apart it does so nowhere else.
-/

namespace UriRouting

namespace Route

theorem length_spelled_lt {route : Route} {value longer : String → String}
    (atLeast : ∀ name ∈ route.template.names,
      (encoded value name).length ≤ (encoded longer name).length)
    (more : ∃ name ∈ route.template.names,
      (encoded value name).length < (encoded longer name).length) :
    (route.spelled value).length < (route.spelled longer).length := by
  have total (given : String → String) : (route.spelled given).length =
      route.template.literals.flatten.length +
        (route.template.names.map fun name => (encoded given name).length).sum := by
    have count := Template.countP_spell (fun _ => true)
      (route.length_map_names (encoded given))
    simpa [spelled, Function.comp_def, List.length_flatten] using count
  rw [total, total]
  exact Nat.add_lt_add_left (List.sum_lt_sum _ _ atLeast more) _

end Route

namespace Command

open scoped List

def queryEntry (query : String) : String × String :=
  (String.ofList (Text.cut '=' query.toList).1,
    String.ofList ((Text.cut '=' query.toList).2.getD []))

/-- Whether `build` reports the same with query parameters as without, followed by a question mark
and the query. In the query a repeated name is at its first place and has its last value. -/
def AddsQueryOnly (pattern : String) : Prop :=
  ∀ values queries : List String, values.length = (placeholderNames pattern).length →
    queries ≠ [] → (∀ query ∈ queries, '=' ∈ query.toList) →
    ∃ uri params, Params.IsMapOf params (queries.map queryEntry) ∧
      runBuild pattern values [] = .result [uri] ∧
      runBuild pattern values queries = .result [uri ++ "?" ++ Query.render params]

theorem readQuery_eq_ok {query : String} (given : '=' ∈ query.toList) :
    readQuery query = .ok (queryEntry query) := by
  unfold readQuery queryEntry
  cases parts : Text.cut '=' query.toList with
  | mk name value? =>
      cases value? with
      | some value => rfl
      | none =>
          have absent := Text.not_mem_cut_fst '=' query.toList
          rw [parts, ← Text.eq_of_cut_none parts] at absent
          exact absurd given absent

theorem mapM_readQuery_eq_ok {queries : List String}
    (given : ∀ query ∈ queries, '=' ∈ query.toList) :
    queries.mapM readQuery = .ok (queries.map queryEntry) := by
  rw [mapM_eq_ok_iff, List.forall₂_map_right_iff]
  exact List.forall₂_same.mpr fun query member => readQuery_eq_ok (given query member)

theorem placeholders_soleRoute (pattern : String) :
    (soleRoute pattern).placeholders = placeholderNames pattern := rfl

theorem result_inj {a b : String} : Report.result [a] = .result [b] ↔ a = b := by
  simp [Report.result, String.join]

section

variable {pattern : String} {values queries : List String}

theorem runBuild_nil (arity : values.length = (placeholderNames pattern).length) :
    runBuild pattern values [] = .result
      [String.ofList ((soleRoute pattern).fillAll ((placeholderNames pattern).zip values))] := by
  have built : (soleRoute pattern).build values = .ok _ := if_pos arity
  simp only [runBuild, List.mapM_nil, pure, Except.pure, built]
  rfl

theorem runBuild_of_ne_nil (arity : values.length = (placeholderNames pattern).length)
    (filled : queries ≠ []) (given : ∀ query ∈ queries, '=' ∈ query.toList) :
    runBuild pattern values queries = .result
      [String.ofList ((soleRoute pattern).fillAll
          (Params.ofList ((placeholderNames pattern).zip values)).entries) ++ "?" ++
        Query.render (.ofList (queries.map queryEntry))] := by
  have built : (soleRoute pattern).build values = .ok _ := if_pos arity
  have asked : (Params.ofList (queries.map queryEntry)).isEmpty = false :=
    Params.isEmpty_ofList (mt List.map_eq_nil_iff.mp filled)
  simp only [runBuild, mapM_readQuery_eq_ok given, built, asked, Bool.false_eq_true, if_false,
    result_inj, Route.buildWith, placeholders_soleRoute]
  rw [List.append_cons, String.ofList_append, String.ofList_append]
  rfl

end

/-- It depends on the two ways to fill the placeholders. -/
theorem addsQueryOnly_iff {pattern : String} :
    AddsQueryOnly pattern ↔ ∀ values : List String,
      values.length = (placeholderNames pattern).length →
      (soleRoute pattern).fillAll (Params.ofList ((placeholderNames pattern).zip values)).entries =
        (soleRoute pattern).fillAll ((placeholderNames pattern).zip values) := by
  constructor
  · intro adds values arity
    have sign : ∀ query ∈ ["="], '=' ∈ query.toList := by simp
    obtain ⟨uri, params, made, plain, asked⟩ := adds values ["="] arity (by simp) sign
    rw [runBuild_nil arity, result_inj] at plain
    rw [runBuild_of_ne_nil arity (by simp) sign, result_inj, ← Params.isMapOf_iff.mp made,
      ← plain] at asked
    simpa [String.append_assoc, String.ofList_inj] using asked
  · intro same values queries arity filled given
    refine ⟨_, _, Params.isMapOf_iff.mpr rfl, runBuild_nil arity, ?_⟩
    rw [runBuild_of_ne_nil arity filled given, same values arity]

theorem addsQueryOnly_of_nodup {pattern : String} (distinct : (placeholderNames pattern).Nodup) :
    AddsQueryOnly pattern := by
  rw [addsQueryOnly_iff]
  intro values arity
  rw [Params.entries_ofList]
  rwa [List.map_fst_zip arity.ge]

section

variable {before after : List String} {name : String}

/-- Values for names in two parts: nothing for the one part, and a letter for the other. -/
def splitEntries (before after : List String) : List (String × String) :=
  before.map (·, "") ++ after.map (·, "x")

def firstValue (before : List String) (name : String) : String :=
  if name ∈ before then "" else "x"

def lastValue (after : List String) (name : String) : String :=
  if name ∈ after then "x" else ""

theorem map_fst_splitEntries : (splitEntries before after).map Prod.fst = before ++ after := by
  simp [splitEntries, Function.comp_def]

theorem lookup_splitEntries (member : name ∈ before ++ after) :
    (splitEntries before after).lookup name = some (firstValue before name) := by
  rw [splitEntries, firstValue, List.lookup_append, lookup_map_pair, lookup_map_pair]
  by_cases early : name ∈ before
  · simp [early]
  · have late : name ∈ after := (List.mem_append.mp member).resolve_left early
    simp [early, late]

theorem get?_splitEntries (member : name ∈ before ++ after) :
    (Params.ofList (splitEntries before after)).get? name = some (lastValue after name) := by
  rw [Params.get?_ofList, splitEntries, lastValue, List.reverse_append, List.lookup_append,
    ← List.map_reverse, ← List.map_reverse, lookup_map_pair, lookup_map_pair]
  by_cases late : name ∈ after
  · simp [late]
  · have early : name ∈ before := (List.mem_append.mp member).resolve_right late
    simp [early, late]

theorem fillAll_splitEntries {route : Route} (apart : route.template.IsApart)
    (names : route.placeholders = before ++ after) :
    route.fillAll (splitEntries before after) =
      Route.fragmentMark :: route.spelled (firstValue before) := by
  refine Route.fillAll_eq_spelled apart ?_ fun name member => ?_
  · intro entry member
    rw [names, ← map_fst_splitEntries]
    exact List.mem_map_of_mem member
  · rw [names] at member
    exact lookup_splitEntries member

theorem fillAll_ofList_splitEntries {route : Route} (apart : route.template.IsApart)
    (names : route.placeholders = before ++ after) :
    route.fillAll (Params.ofList (splitEntries before after)).entries =
      Route.fragmentMark :: route.spelled (lastValue after) := by
  refine Route.fillAll_eq_spelled apart ?_ fun name member => ?_
  · intro entry member
    rw [names, ← map_fst_splitEntries, ← List.mem_eraseDups, ← Params.keys_ofList]
    exact List.mem_map_of_mem member
  · rw [names] at member
    exact get?_splitEntries member

theorem length_encoded_le {name : List Char} (member : String.ofList name ∈ before ++ after) :
    (Route.encoded (firstValue before) name).length ≤
      (Route.encoded (lastValue after) name).length := by
  unfold Route.encoded firstValue lastValue
  by_cases early : String.ofList name ∈ before
  · rw [if_pos early]
    exact Nat.zero_le _
  · rw [if_neg early, if_pos ((List.mem_append.mp member).resolve_left early)]

theorem length_encoded_lt (early : name ∈ before) (late : name ∈ after) :
    (Route.encoded (firstValue before) name.toList).length <
      (Route.encoded (lastValue after) name.toList).length := by
  unfold Route.encoded firstValue lastValue
  rw [String.ofList_toList, if_pos early, if_pos late]
  decide

end

/-- A name that is repeated may be filled with nothing, and next time with a letter. -/
theorem not_addsQueryOnly {pattern : String} (apart : (soleRoute pattern).template.IsApart)
    (repeated : ¬ (placeholderNames pattern).Nodup) : ¬ AddsQueryOnly pattern := by
  obtain ⟨twice, duplicate⟩ := List.exists_duplicate_iff_not_nodup.mpr repeated
  have pair : [twice] ++ [twice] <+ placeholderNames pattern :=
    List.duplicate_iff_sublist.mp duplicate
  obtain ⟨before, after, names, early, late⟩ := List.append_sublist_iff.mp pair
  rw [List.singleton_sublist] at early late
  rw [addsQueryOnly_iff]
  intro same
  have arity : ((splitEntries before after).map Prod.snd).length =
      (placeholderNames pattern).length := by
    rw [names, ← map_fst_splitEntries, List.length_map, List.length_map]
  have paths := same _ arity
  have zip : (placeholderNames pattern).zip ((splitEntries before after).map Prod.snd) =
      splitEntries before after := by
    have whole := List.zip_unzip (splitEntries before after)
    rwa [List.unzip_eq_map, map_fst_splitEntries, ← names] at whole
  rw [zip, fillAll_ofList_splitEntries apart names, fillAll_splitEntries apart names] at paths
  have longer : ((soleRoute pattern).spelled (firstValue before)).length <
      ((soleRoute pattern).spelled (lastValue after)).length := by
    refine Route.length_spelled_lt (fun name member => length_encoded_le ?_)
      ⟨twice.toList, ?_, length_encoded_lt early late⟩
    · rwa [Route.mem_names_iff, placeholders_soleRoute, names] at member
    · rw [Route.mem_names_iff, String.ofList_toList, placeholders_soleRoute]
      exact duplicate.mem
  rw [(List.cons.inj paths).2] at longer
  exact Nat.lt_irrefl _ longer

/-- A query only adds itself exactly if filling by name is filling by position. That is so if no name
is repeated, whatever the names are, and if the names are apart, in no other case. -/
theorem addsQueryOnly_of_nodup_iff_of_isApart (pattern : String) :
    (AddsQueryOnly pattern ↔ ∀ values : List String,
      values.length = (placeholderNames pattern).length →
      (soleRoute pattern).fillAll (Params.ofList ((placeholderNames pattern).zip values)).entries =
        (soleRoute pattern).fillAll ((placeholderNames pattern).zip values)) ∧
      ((placeholderNames pattern).Nodup → AddsQueryOnly pattern) ∧
      ((soleRoute pattern).template.IsApart →
        (AddsQueryOnly pattern ↔ (placeholderNames pattern).Nodup)) := by
  refine ⟨addsQueryOnly_iff, addsQueryOnly_of_nodup, ?_⟩
  intro apart
  constructor
  · intro adds
    by_contra repeated
    exact not_addsQueryOnly apart repeated adds
  · exact addsQueryOnly_of_nodup

theorem addsQueryOnly_sample :
    AddsQueryOnly "/{a}/\x7b{a}" ∧
      (AddsQueryOnly "/{a}/{b}" ↔ (placeholderNames "/{a}/{b}").Nodup) :=
  ⟨(addsQueryOnly_of_nodup_iff_of_isApart _).2.1 (by decide),
    (addsQueryOnly_of_nodup_iff_of_isApart _).2.2 (by decide)⟩

/-- With a query the second value is written into both placeholders, and without one the first. -/
theorem runBuild_repeated :
    runBuild "/{a}/{a}" ["x", "y"] [] = .result ["#/x/x"] ∧
      runBuild "/{a}/{a}" ["x", "y"] ["k=v"] = .result ["#/y/y?k=v"] ∧
      ¬ AddsQueryOnly "/{a}/{a}" := by
  have plain : runBuild "/{a}/{a}" ["x", "y"] [] = .result ["#/x/x"] := by decide
  have asked : runBuild "/{a}/{a}" ["x", "y"] ["k=v"] = .result ["#/y/y?k=v"] := by decide
  refine ⟨plain, asked, fun adds => ?_⟩
  obtain ⟨uri, params, made, first, second⟩ := adds ["x", "y"] ["k=v"] (by decide) (by decide)
    (by decide)
  have query : params = .ofList [("k", "v")] := Params.isMapOf_iff.mp made
  rw [plain, result_inj] at first
  rw [asked, result_inj, ← first, query] at second
  revert second
  decide

end Command

end UriRouting
