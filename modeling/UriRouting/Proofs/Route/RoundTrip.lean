import Mathlib
import UriRouting.Proofs.Query.RoundTrip
import UriRouting.Proofs.Route.Matching
import UriRouting.Proofs.Template.Filling
import UriRouting.Proofs.Template.Separation

/-! # Building a URI and matching it

A URI that was built from values for all placeholders says these values to its route. Its path is
spelled by the literals and the encoded values, which is the only way to divide it when the literals
between placeholders separate them.

So a match can be rebuilt: whatever the URI was from which it came, the URI that it builds says the
same.
-/

namespace UriRouting

namespace Template

/-- Whether no name ends with an opening brace and the name of a placeholder. -/
def IsApart (template : Template) : Prop :=
  ∀ name ∈ template.names, ∀ other ∈ template.names, ¬ '{' :: other <:+ name

instance (template : Template) : Decidable template.IsApart :=
  inferInstanceAs (Decidable (∀ name ∈ template.names, ∀ other ∈ template.names, ¬ _ <:+ name))

theorem mem_spell_iff {template : Template} {texts : List (List Char)}
    (arity : texts.length = template.slots.length) (c : Char) :
    c ∈ template.spell texts ↔
      (∃ literal ∈ template.literals, c ∈ literal) ∨ ∃ text ∈ texts, c ∈ text := by
  have count := countP_spell (· == c) arity
  rw [← List.mem_flatten, ← List.mem_flatten, ← List.count_pos_iff, ← List.count_pos_iff,
    ← List.count_pos_iff]
  unfold List.count
  omega

end Template

namespace Route

theorem length_placeholders (route : Route) :
    route.placeholders.length = route.template.slots.length := by
  simp [placeholders, placeholderNames, Template.names, template]

theorem mem_names_iff {route : Route} {name : List Char} :
    name ∈ route.template.names ↔ String.ofList name ∈ route.placeholders := by
  unfold placeholders placeholderNames
  constructor
  · exact List.mem_map_of_mem
  · intro member
    obtain ⟨other, inside, same⟩ := List.mem_map.mp member
    rw [← String.toList_ofList (l := name), ← same, String.toList_ofList]
    exact inside

theorem dropMark_ofList (rest : List Char) :
    dropMark (String.ofList (fragmentMark :: rest)) = String.ofList rest := by
  simp [dropMark]

theorem dropMark_of_head?_ne {uri : String} (unmarked : uri.toList.head? ≠ some fragmentMark) :
    dropMark uri = uri := by
  unfold dropMark
  split
  · rename_i first rest split
    rw [if_neg]
    intro mark
    rw [split, mark] at unmarked
    exact unmarked rfl
  · rfl

theorem pathOf_ofList {path : List Char} (unmarked : '?' ∉ path) :
    pathOf (String.ofList path) = path ∧ queryOf (String.ofList path) = [] := by
  have parts := cut_queryMark (String.ofList path)
  rw [String.toList_ofList, Text.cut_of_not_mem unmarked] at parts
  exact ⟨parts.1.symm, parts.2.symm⟩

theorem pathOf_append {path : List Char} (unmarked : '?' ∉ path) (query : List Char) :
    pathOf (String.ofList (path ++ '?' :: query)) = path ∧
      queryOf (String.ofList (path ++ '?' :: query)) = query := by
  have parts := cut_queryMark (String.ofList (path ++ '?' :: query))
  rw [String.toList_ofList, Text.cut_append unmarked] at parts
  exact ⟨parts.1.symm, parts.2.symm⟩

theorem mark_not_mem_pathOf (uri : String) : '?' ∉ pathOf uri := by
  intro member
  simpa using List.mem_takeWhile_imp member

theorem toList_of_mem {uri : String} (marked : '?' ∈ uri.toList) :
    uri.toList = pathOf uri ++ '?' :: queryOf uri := by
  obtain ⟨path, query, split, unmarked⟩ := List.eq_append_cons_of_mem marked
  obtain ⟨samePath, sameQuery⟩ := pathOf_append unmarked query
  rw [← split, String.ofList_toList] at samePath sameQuery
  rw [samePath, sameQuery, split]

theorem toList_of_not_mem {uri : String} (unmarked : '?' ∉ uri.toList) :
    uri.toList = pathOf uri ∧ queryOf uri = [] := by
  obtain ⟨path, query⟩ := pathOf_ofList unmarked
  rw [String.ofList_toList] at path query
  exact ⟨path.symm, query⟩

def encoded (value : String → String) (name : List Char) : List Char :=
  Percent.encodeChars (value (String.ofList name)).toList

def spelled (route : Route) (value : String → String) : List Char :=
  route.template.spell (route.template.names.map (encoded value))

theorem length_map_names (route : Route) (f : List Char → List Char) :
    (route.template.names.map f).length = route.template.slots.length := by
  simp [Template.names]

theorem mark_not_mem_spelled {route : Route}
    (unmarked : ∀ literal ∈ route.template.literals, '?' ∉ literal) (value : String → String) :
    '?' ∉ route.spelled value := by
  rw [spelled, Template.mem_spell_iff (route.length_map_names _)]
  rintro (⟨literal, member, inside⟩ | ⟨text, member, inside⟩)
  · exact unmarked literal member inside
  · obtain ⟨name, -, rfl⟩ := List.mem_map.mp member
    exact Percent.not_mem_encodeChars (by decide) _ inside

/-- Encoded values are the only division of the path that they spell. -/
theorem isGreatestDivision_spelled {route : Route} (separated : route.template.IsSeparated)
    (value : String → String) :
    route.template.IsGreatestDivision (route.template.names.map (encoded value))
      (route.spelled value) := by
  have division : route.template.IsDivision (route.template.names.map (encoded value))
      (route.spelled value) := by
    refine ⟨route.length_map_names _, ?_, rfl⟩
    intro capture member
    obtain ⟨name, -, rfl⟩ := List.mem_map.mp member
    exact Percent.not_mem_encodeChars (by decide) _
  have written : ∀ capture ∈ route.template.names.map (encoded value), ∀ c ∈ capture,
      Percent.isWritten c = true := by
    intro capture member c inside
    obtain ⟨name, -, rfl⟩ := List.mem_map.mp member
    exact Percent.isWritten_of_mem_encodeChars inside
  refine ⟨division, fun others other different => ?_⟩
  exact absurd (Template.eq_of_isDivision separated division other written) different

/-- A URI whose path is spelled by encoded values says these values. -/
theorem matchUri_of_pathOf_eq {route : Route} (separated : route.template.IsSeparated)
    {uri : String} {value : String → String} {queryParams : Params String}
    (path : pathOf uri = route.spelled value)
    (query : Query.parseChars (queryOf uri) = .ok queryParams) :
    route.matchUri uri = .ok (some ⟨route,
      .ofList (route.placeholders.map fun name => (name, value name)), queryParams⟩) := by
  have entries : route.placeholders.map (fun name => (name, value name)) =
      route.placeholders.zip (route.placeholders.map value) := List.map_prod_left_eq_zip
  refine matchUri_eq_some_iff.mpr ⟨_, route.placeholders.map value,
    path ▸ isGreatestDivision_spelled separated value, ?_, query, rfl,
    Params.isMapOf_iff.mpr (congrArg Params.ofList entries)⟩
  rw [placeholders, placeholderNames, List.map_map, List.forall₂_map_left_iff,
    List.forall₂_map_right_iff]
  exact List.forall₂_same.mpr fun name _ => Percent.decodeChars_encodeChars _

theorem fillAll_eq_spelled {route : Route} (apart : route.template.IsApart)
    {entries : List (String × String)} {value : String → String}
    (known : ∀ entry ∈ entries, entry.1 ∈ route.placeholders)
    (values : ∀ name ∈ route.placeholders, entries.lookup name = some (value name)) :
    route.fillAll entries = fragmentMark :: route.spelled value := by
  have names : ∀ entry ∈ entries, entry.1.toList ∈ route.template.names := by
    intro entry member
    rw [mem_names_iff, String.ofList_toList]
    exact known entry member
  have cut := Template.isCut_ofChars route.pattern.toList
  rw [Template.fillAll_eq route (fun entry member => cut.names _ (names entry member))
    (fun entry member name inside => apart name inside _ (names entry member))]
  refine congrArg (fragmentMark :: route.template.spell ·) ?_
  refine List.map_congr_left fun name member => ?_
  simp only [Template.standIn, Template.written, values _ (mem_names_iff.mp member),
    Option.map_some, Option.getD_some, encoded]

/-- A URI that was built has the path that was made, and its query is read as it was given. -/
theorem parts_of_buildWith {route : Route} {routeParams queryParams : Params String}
    {path : List Char} (filled : route.fillAll routeParams.entries = fragmentMark :: path)
    (unmarked : '?' ∉ path) (clean : ∀ name ∈ queryParams.keys, Query.IsClean name) :
    pathOf (dropMark (route.buildWith routeParams queryParams)) = path ∧
      Query.parseChars (queryOf (dropMark (route.buildWith routeParams queryParams))) =
        .ok queryParams := by
  simp only [buildWith, filled]
  split
  · rename_i none
    have nothing : queryParams = .empty := Params.ext (List.isEmpty_iff.mp none)
    rw [dropMark_ofList, (pathOf_ofList unmarked).1, (pathOf_ofList unmarked).2, nothing]
    exact ⟨rfl, rfl⟩
  · rw [List.cons_append, dropMark_ofList, (pathOf_append unmarked _).1,
      (pathOf_append unmarked _).2]
    exact ⟨rfl, Query.parseChars_renderChars clean⟩

theorem matchUri_buildWith_eq {route : Route} (separated : route.template.IsSeparated)
    (apart : route.template.IsApart)
    (unmarked : ∀ literal ∈ route.template.literals, '?' ∉ literal)
    {routeParams queryParams : Params String}
    (known : ∀ name, name ∈ routeParams.keys ↔ name ∈ route.placeholders)
    (clean : ∀ name ∈ queryParams.keys, Query.IsClean name) :
    route.matchUri (dropMark (route.buildWith routeParams queryParams)) =
      .ok (some ⟨route, routeParams.arrange route.placeholders, queryParams⟩) := by
  have values : ∀ name ∈ route.placeholders,
      routeParams.get? name = some (routeParams.getD name "") := by
    intro name member
    obtain ⟨value, found⟩ := (routeParams.mem_keys_iff name).mp ((known name).mpr member)
    rw [Params.getD, found, Option.getD_some]
  have filled : route.fillAll routeParams.entries =
      fragmentMark :: route.spelled fun name => routeParams.getD name "" :=
    fillAll_eq_spelled apart (fun entry member => (known _).mp (List.mem_map_of_mem member)) values
  obtain ⟨path, query⟩ := parts_of_buildWith filled (mark_not_mem_spelled unmarked _) clean
  exact matchUri_of_pathOf_eq separated path query

theorem buildWith_empty (route : Route) (routeParams : Params String) :
    route.buildWith routeParams .empty = String.ofList (route.fillAll routeParams.entries) := rfl

/-- Building and matching is the identity: for values that are given by name, which come back in
the order of the placeholders, and for values that are given by place. -/
theorem matchUri_built {route : Route} (separated : route.template.IsSeparated)
    (apart : route.template.IsApart)
    (unmarked : ∀ literal ∈ route.template.literals, '?' ∉ literal) :
    (∀ routeParams queryParams : Params String,
      (∀ name, name ∈ routeParams.keys ↔ name ∈ route.placeholders) →
      (∀ name ∈ queryParams.keys, Query.IsClean name) →
      ∃ found, route.matchUri (dropMark (route.buildWith routeParams queryParams)) =
          .ok (some found) ∧
        found.route = route ∧ found.routeParams.keys = route.placeholders.eraseDups ∧
        (∀ name, found.routeParams.get? name = routeParams.get? name) ∧
        found.queryParams = queryParams) ∧
    (route.placeholders.Nodup → ∀ values : List String, values.length = route.arity →
      ∃ uri found, route.build values = .ok uri ∧
        route.matchUri (dropMark uri) = .ok (some found) ∧
        found.route = route ∧ found.routeParams.entries = route.placeholders.zip values ∧
        found.queryParams = .empty) := by
  constructor
  · intro routeParams queryParams known clean
    exact ⟨_, matchUri_buildWith_eq separated apart unmarked known clean, rfl,
      Params.keys_arrange _ _, Params.get?_arrange known, rfl⟩
  · intro distinct values arity
    have names : (route.placeholders.zip values).map Prod.fst = route.placeholders :=
      List.map_fst_zip arity.ge
    let routeParams : Params String := ⟨route.placeholders.zip values, names.symm ▸ distinct⟩
    have order : routeParams.keys = route.placeholders.eraseDups := by
      rw [← routeParams.eraseDups_keys]
      exact congrArg List.eraseDups names
    have known : ∀ name, name ∈ routeParams.keys ↔ name ∈ route.placeholders := by
      intro name
      rw [order, List.mem_eraseDups]
    have clean : ∀ name ∈ (Params.empty : Params String).keys, Query.IsClean name := by
      simp [Params.keys]
    have built := matchUri_buildWith_eq separated apart unmarked known clean
    rw [Params.arrange_eq order, buildWith_empty] at built
    exact ⟨_, _, if_pos arity, built, rfl, rfl, rfl⟩

/-- The route of `/{a}:{b{c}/{a}`, in which a placeholder occurs twice, and the name of another one
holds a brace. -/
def tangled : Route := .ofPattern 1 "/{a}:\x7bb{c}/{a}"

theorem placeholders_tangled : tangled.placeholders = ["a", "b\x7bc", "a"] := by decide

theorem isSeparated_tangled : tangled.template.IsSeparated := by decide

theorem isApart_tangled : tangled.template.IsApart := by decide

theorem matchUri_built_tangled :
    (∃ found, tangled.matchUri (dropMark (tangled.buildWith
          (.ofList [("b\x7bc", "x/y"), ("a", "é")]) (.ofList [("k", "&="), ("", "?")]))) =
          .ok (some found) ∧
        found.route = tangled ∧ found.routeParams.keys = ["a", "b\x7bc"] ∧
        found.routeParams.get? "a" = some "é" ∧ found.routeParams.get? "b\x7bc" = some "x/y" ∧
        found.queryParams = .ofList [("k", "&="), ("", "?")]) ∧
      ∃ uri found, (Route.ofPattern 2 "/{a}.x:{b}").build ["", "{a}"] = .ok uri ∧
        (Route.ofPattern 2 "/{a}.x:{b}").matchUri (dropMark uri) = .ok (some found) ∧
        found.route = .ofPattern 2 "/{a}.x:{b}" ∧
        found.routeParams.entries = [("a", ""), ("b", "{a}")] ∧ found.queryParams = .empty := by
  constructor
  · have known : ∀ name, name ∈ (Params.ofList [("b\x7bc", "x/y"), ("a", "é")]).keys ↔
        name ∈ tangled.placeholders := by
      intro name
      rw [placeholders_tangled, Params.keys_ofList]
      simp [or_comm]
    obtain ⟨found, matched, same, keys, values, query⟩ :=
      (matchUri_built isSeparated_tangled isApart_tangled (by decide)).1 _
        (.ofList [("k", "&="), ("", "?")]) known (by decide)
    rw [placeholders_tangled] at keys
    exact ⟨found, matched, same, keys, values "a", values "b\x7bc", query⟩
  · have separated : (Route.ofPattern 2 "/{a}.x:{b}").template.IsSeparated := by decide
    exact (matchUri_built separated (by decide) (by decide)).2 (by decide) _ (by decide)

/-- The parameters of a match are the placeholders of its route, each once at its first place. -/
theorem keys_of_matchUri {route : Route} {uri : String} {found : Match}
    (accepted : route.matchUri uri = .ok (some found)) :
    found.routeParams.keys = route.placeholders.eraseDups := by
  obtain ⟨captures, texts, greatest, decoded, -, -, made⟩ := matchUri_eq_some_iff.mp accepted
  rw [made.order, List.map_fst_zip]
  rw [length_placeholders, ← greatest.arity, decoded.length_eq]

/-- A route whose pattern has a question mark outside its placeholders has no matches. -/
theorem unmarked_of_matchUri {route : Route} {uri : String} {found : Match}
    (accepted : route.matchUri uri = .ok (some found)) :
    ∀ literal ∈ route.template.literals, '?' ∉ literal := by
  obtain ⟨captures, texts, greatest, -⟩ := matchUri_eq_some_iff.mp accepted
  intro literal member inside
  refine mark_not_mem_pathOf uri ?_
  rw [← greatest.spells, Template.mem_spell_iff greatest.arity]
  exact .inl ⟨literal, member, inside⟩

/-- Rebuilding a match keeps what it says, also with another query. -/
theorem matchUri_rebuilt {route : Route} (separated : route.template.IsSeparated)
    (apart : route.template.IsApart) {uri : String} {found : Match}
    (accepted : route.matchUri uri = .ok (some found)) :
    route.matchUri (dropMark found.build) = .ok (some found) ∧
      ∀ params named : Params (Option String),
        (∀ name ∈ (found.withQueryParams params named).queryParams.keys, Query.IsClean name) →
        route.matchUri (dropMark (found.withQueryParams params named).build) =
            .ok (some (found.withQueryParams params named)) ∧
          (found.withQueryParams params named).routeParams = found.routeParams := by
  obtain ⟨-, -, -, -, read, rfl, -⟩ := matchUri_eq_some_iff.mp accepted
  have order := keys_of_matchUri accepted
  have known : ∀ name, name ∈ found.routeParams.keys ↔ name ∈ found.route.placeholders := by
    intro name
    rw [order, List.mem_eraseDups]
  have rebuilt : ∀ queryParams : Params String,
      (∀ name ∈ queryParams.keys, Query.IsClean name) →
      found.route.matchUri (dropMark (found.route.buildWith found.routeParams queryParams)) =
        .ok (some { found with queryParams }) := by
    intro queryParams clean
    rw [matchUri_buildWith_eq separated apart (unmarked_of_matchUri accepted) known clean,
      Params.arrange_eq order]
  refine ⟨rebuilt _ (Query.isClean_of_parseChars read), fun params named clean => ⟨?_, rfl⟩⟩
  exact rebuilt _ clean

theorem matchUri_rebuilt_tangled :
    ∃ found, tangled.matchUri "/x:%c3%A9/y?&k=1&k=%41" = .ok (some found) ∧
      tangled.matchUri (dropMark found.build) = .ok (some found) ∧
      tangled.matchUri (dropMark (found.withQueryParams (.ofList [("k", none), ("m", some "&")])
          (.ofList [("k", some "2")])).build) =
        .ok (some (found.withQueryParams (.ofList [("k", none), ("m", some "&")])
          (.ofList [("k", some "2")]))) := by
  have accepted : tangled.matchUri "/x:%c3%A9/y?&k=1&k=%41" =
      .ok (some ⟨tangled, .ofList [("a", "y"), ("b\x7bc", "é")],
        .ofList [("", ""), ("k", "A")]⟩) := by decide
  obtain ⟨same, edited⟩ := matchUri_rebuilt isSeparated_tangled isApart_tangled accepted
  exact ⟨_, accepted, same, (edited _ _ (by decide)).1⟩

end Route

end UriRouting
