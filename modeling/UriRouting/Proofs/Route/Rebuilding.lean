import Mathlib
import UriRouting.Proofs.Percent.Canonical
import UriRouting.Proofs.Route.Positional

/-! # Matching a URI and building it again

A URI whose parts are written as they would be written comes back unchanged. Its captures are the texts
from which the path is spelled, and they come back one by one, so nothing has to be known of the
literals: the path may be divided in other ways as well, but it is the greatest division that is spelled
again. In the query the order and the names come back if no name is given twice, and a question mark
only if there is a query behind it.
-/

namespace UriRouting

namespace Query

/-- Whether a query is written as it would be written for the parameters in it: there are some, each
with an equals sign, no name twice, and the values as they are encoded. -/
structure IsCanonical (query : List Char) : Prop where
  filled : query ≠ []
  signs : ∀ piece ∈ Text.pieces '&' query, '=' ∈ piece
  distinct : ((Text.pieces '&' query).map fun piece => (Text.cut '=' piece).1).Nodup
  values : ∀ value ∈ Query.values query, Percent.IsCanonical value

theorem renderEntry_of_readPiece {piece : List Char} {entry : String × String} (sign : '=' ∈ piece)
    (canonical : ∀ value, (Text.cut '=' piece).2 = some value → Percent.IsCanonical value)
    (read : readPiece piece = .ok entry) : renderEntry entry = piece := by
  unfold readPiece at read
  split at read
  · rename_i name whole
    have absent := Text.not_mem_cut_fst '=' piece
    rw [whole, ← Text.eq_of_cut_none whole] at absent
    exact absurd sign absent
  · rename_i name value parts
    obtain ⟨plain, decoded, written⟩ := canonical value (by rw [parts])
    simp only [decoded, bind, Except.bind, pure, Except.pure, Except.ok.injEq] at read
    rw [← read, renderEntry, String.toList_ofList, String.toList_ofList, written,
      ← Text.eq_of_cut_some parts]

theorem mem_values {query piece value : List Char} (member : piece ∈ Text.pieces '&' query)
    (filled : query ≠ []) (part : (Text.cut '=' piece).2 = some value) : value ∈ values query := by
  rw [values, if_neg (by simpa using filled)]
  exact List.mem_filterMap.mpr ⟨piece, member, part⟩

theorem renderChars_of_parseChars {query : List Char} {params : Params String}
    (canonical : IsCanonical query) (read : parseChars query = .ok params) :
    renderChars params = query := by
  obtain ⟨entries, parts, rfl⟩ := exists_of_parseChars canonical.filled read
  rw [mapM_eq_ok_iff] at parts
  have names : entries.map (fun entry => entry.1.toList) =
      (Text.pieces '&' query).map fun piece => (Text.cut '=' piece).1 := by
    refine map_eq_of_forall₂ parts fun piece _ entry read => ?_
    rw [fst_of_readPiece read, String.toList_ofList]
  have distinct : (entries.map Prod.fst).Nodup := by
    refine List.Nodup.of_map String.toList ?_
    rw [List.map_map]
    exact names ▸ canonical.distinct
  have written : entries.map renderEntry = (Text.pieces '&' query).map id := by
    refine map_eq_of_forall₂ parts fun piece member entry read => ?_
    refine renderEntry_of_readPiece (canonical.signs piece member) (fun value part => ?_) read
    exact canonical.values value (mem_values member canonical.filled part)
  rw [renderChars, Params.entries_ofList distinct, written, List.map_id, Text.join_pieces]

end Query

theorem Template.IsApart.inOrder {template : Template} (apart : template.IsApart) :
    template.IsApartInOrder :=
  List.pairwise_of_forall_mem_list fun earlier before later behind => apart later behind earlier before

namespace Route

/-- The texts that were captured are written again as they stood there. -/
theorem fillAll_of_matchUri {route : Route} (distinct : route.placeholders.Nodup)
    (apart : route.template.IsApart) {uri : String} {found : Match}
    (accepted : route.matchUri uri = .ok (some found))
    (canonical : ∀ captures, route.template.capture (pathOf uri) = some captures →
      ∀ capture ∈ captures, Percent.IsCanonical capture) :
    route.fillAll found.routeParams.entries = fragmentMark :: pathOf uri := by
  obtain ⟨captures, texts, greatest, decoded, -, -, made⟩ := matchUri_eq_some_iff.mp accepted
  have written : encodedValues texts = captures.map id := by
    refine map_eq_of_forall₂ decoded fun capture member text read => ?_
    obtain ⟨plain, same, written⟩ :=
      canonical captures (Template.capture_eq_some_iff.mpr greatest) capture member
    rwa [← Except.ok.inj (same.symm.trans read)]
  have arity : texts.length = route.arity := by
    rw [← decoded.length_eq, greatest.arity, ← length_placeholders, Route.arity]
  have entries : found.routeParams.entries = route.placeholders.zip texts := by
    rw [Params.isMapOf_iff.mp made, Params.entries_ofList]
    rwa [List.map_fst_zip arity.ge]
  rw [entries, fillAll_zip distinct apart.inOrder arity, written, List.map_id, greatest.spells]

/-- A URI of which all parts are written as they would be written is built again as it was. -/
theorem build_of_matchUri {route : Route} (distinct : route.placeholders.Nodup)
    (apart : route.template.IsApart) {uri : String} {found : Match}
    (accepted : route.matchUri uri = .ok (some found))
    (canonical : ∀ captures, route.template.capture (pathOf uri) = some captures →
      ∀ capture ∈ captures, Percent.IsCanonical capture)
    (query : '?' ∉ uri.toList ∨ Query.IsCanonical (queryOf uri)) :
    found.build = "#" ++ uri := by
  have path := fillAll_of_matchUri distinct apart accepted canonical
  obtain ⟨-, -, -, -, read, rfl, -⟩ := matchUri_eq_some_iff.mp accepted
  rw [← String.toList_inj, Match.build, Query.buildWith_eq, buildWith_empty, path,
    String.toList_append, String.toList_ofList, String.toList_append]
  rcases query with unmarked | asked
  · obtain ⟨whole, nothing⟩ := toList_of_not_mem unmarked
    rw [nothing] at read
    obtain none : found.queryParams = .empty := (Except.ok.inj read).symm
    rw [none, whole]
    simp [Params.isEmpty, fragmentMark]
  · have marked : '?' ∈ uri.toList := by
      by_contra unmarked
      exact asked.filled (toList_of_not_mem unmarked).2
    have written := Query.renderChars_of_parseChars asked read
    have filled : found.queryParams.isEmpty = false := by
      rw [← Bool.not_eq_true]
      intro none
      have nothing : found.queryParams = .empty := Params.ext (List.isEmpty_iff.mp none)
      rw [nothing] at written
      exact asked.filled written.symm
    rw [filled, toList_of_mem marked]
    simp [Query.render, written, fragmentMark]

/-- A path of this route can be divided in several ways. -/
def dotted : Route := .ofPattern 1 "/{a}.{b}.x"

theorem build_of_matchUri_dotted :
    ∃ found, dotted.matchUri "/p%2F.q.r.x?k=%26&=&%=1" = .ok (some found) ∧
      found.routeParams.entries = [("a", "p/.q"), ("b", "r")] ∧
      found.build = "#/p%2F.q.r.x?k=%26&=&%=1" := by
  have accepted : dotted.matchUri "/p%2F.q.r.x?k=%26&=&%=1" =
      .ok (some ⟨dotted, .ofList [("a", "p/.q"), ("b", "r")],
        .ofList [("k", "&"), ("", ""), ("%", "1")]⟩) := by decide
  have search : dotted.template.capture (pathOf "/p%2F.q.r.x?k=%26&=&%=1") =
      some ["p%2F.q".toList, "r".toList] := by decide
  have captures : ∀ captures,
      dotted.template.capture (pathOf "/p%2F.q.r.x?k=%26&=&%=1") = some captures →
      ∀ capture ∈ captures, Percent.IsCanonical capture := by
    intro captures found
    obtain rfl := Option.some.inj (search.symm.trans found)
    decide
  have query : Query.IsCanonical (queryOf "/p%2F.q.r.x?k=%26&=&%=1") :=
    ⟨by decide, by decide, by decide, by decide⟩
  exact ⟨_, accepted, rfl,
    build_of_matchUri (by decide) (by decide) accepted captures (.inr query)⟩

end Route

end UriRouting
