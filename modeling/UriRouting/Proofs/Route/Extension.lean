import Mathlib
import UriRouting.Proofs.Route.RoundTrip

/-! # A URI with one more parameter

A parameter that is added at the end of a query is behind the path, so a route that is asked for the
longer URI divides the same path in the same way. If its value can be decoded, the longer URI has the
faults of the shorter one and no other, and the two matches differ only in the query, where the name
has the added value.
-/

namespace UriRouting

/-- The piece of a query that holds a name and a value as it is written. -/
def Query.piece (name raw : String) : List Char :=
  name.toList ++ '=' :: raw.toList

/-- A URI with one more parameter at the end of its query, the value of which is written already. -/
def Route.extend (uri name raw : String) : String :=
  uri ++ (if '?' ∈ uri.toList then "&" else "?") ++ String.ofList (Query.piece name raw)

def Match.extend (found : Match) (name text : String) : Match :=
  { found with queryParams := found.queryParams.insert name text }

namespace Query

theorem readPiece_piece {name raw text : String} (clean : IsClean name)
    (decoded : Percent.decode raw = .ok text) : readPiece (piece name raw) = .ok (name, text) := by
  rw [piece, readPiece, Text.cut_append clean.2]
  unfold Percent.decode at decoded
  cases chars : Percent.decodeChars raw.toList with
  | error fault =>
      rw [chars] at decoded
      cases decoded
  | ok chars' =>
      rw [chars] at decoded
      simp [chars, bind, Except.bind, pure, Except.pure, ← Except.ok.inj decoded]

theorem ampersand_not_mem_piece {name raw : String} (clean : IsClean name)
    (whole : '&' ∉ raw.toList) : '&' ∉ piece name raw := by
  simp only [piece, List.mem_append, List.mem_cons, not_or]
  exact ⟨clean.1, by decide, whole⟩

theorem parseChars_append_piece {query : List Char} (filled : query ≠ []) {name raw text : String}
    (clean : IsClean name) (whole : '&' ∉ raw.toList) (decoded : Percent.decode raw = .ok text) :
    parseChars (query ++ '&' :: piece name raw) =
      (parseChars query).map fun params => params.insert name text := by
  have longer : query ++ '&' :: piece name raw ≠ [] := by simp
  rw [parseChars_of_ne_nil filled, parseChars_of_ne_nil longer, Text.pieces_append,
    Text.pieces_of_not_mem (ampersand_not_mem_piece clean whole), List.mapM_append]
  cases (Text.pieces '&' query).mapM readPiece with
  | error fault => rfl
  | ok entries =>
      simp only [List.mapM_cons, List.mapM_nil, readPiece_piece clean decoded, bind, Except.bind,
        pure, Except.pure, Except.map, Params.ofList_append_singleton]

theorem parseChars_piece {name raw text : String} (clean : IsClean name)
    (whole : '&' ∉ raw.toList) (decoded : Percent.decode raw = .ok text) :
    parseChars (piece name raw) = .ok (Params.empty.insert name text) := by
  have filled : piece name raw ≠ [] := by simp [piece]
  rw [parseChars_of_ne_nil filled,
    Text.pieces_of_not_mem (ampersand_not_mem_piece clean whole), List.mapM_cons,
    readPiece_piece clean decoded]
  rfl

end Query

namespace Route

section Extending

variable (uri name raw : String)

theorem toList_extend :
    (extend uri name raw).toList =
      uri.toList ++ (if '?' ∈ uri.toList then '&' else '?') :: Query.piece name raw := by
  unfold extend
  split <;> simp

/-- The path stays, and the parameter comes after the query if there is one. -/
theorem parts_of_extend :
    pathOf (extend uri name raw) = pathOf uri ∧
      queryOf (extend uri name raw) =
        if '?' ∈ uri.toList then queryOf uri ++ '&' :: Query.piece name raw
        else Query.piece name raw := by
  by_cases queried : '?' ∈ uri.toList
  · have long : extend uri name raw =
        String.ofList (pathOf uri ++ '?' :: (queryOf uri ++ '&' :: Query.piece name raw)) := by
      rw [← String.toList_inj, toList_extend, if_pos queried, toList_of_mem queried]
      simp
    rw [if_pos queried, long]
    exact pathOf_append (mark_not_mem_pathOf uri) _
  · have long : extend uri name raw =
        String.ofList (pathOf uri ++ '?' :: Query.piece name raw) := by
      rw [← String.toList_inj, toList_extend, if_neg queried, (toList_of_not_mem queried).1,
        String.toList_ofList]
    rw [if_neg queried, long]
    exact pathOf_append (mark_not_mem_pathOf uri) _

theorem marked_or_head?_ne :
    (∃ rest, uri = String.ofList (fragmentMark :: rest)) ∨
      uri.toList.head? ≠ some fragmentMark := by
  cases split : uri.toList with
  | nil => exact .inr (by simp)
  | cons first rest =>
      by_cases mark : first = fragmentMark
      · exact .inl ⟨rest, by rw [← mark, ← split, String.ofList_toList]⟩
      · exact .inr (by simpa using mark)

theorem dropMark_extend : dropMark (extend uri name raw) = extend (dropMark uri) name raw := by
  rcases marked_or_head?_ne uri with ⟨rest, rfl⟩ | unmarked
  · have long : extend (String.ofList (fragmentMark :: rest)) name raw =
        String.ofList (fragmentMark :: (extend (String.ofList rest) name raw).toList) := by
      rw [← String.toList_inj]
      simp [toList_extend, fragmentMark]
    rw [long, dropMark_ofList, dropMark_ofList, String.ofList_toList]
  · rw [dropMark_of_head?_ne unmarked, dropMark_of_head?_ne]
    rw [toList_extend]
    cases split : uri.toList with
    | nil => simp [fragmentMark]
    | cons first rest => simpa [split] using unmarked

theorem query_dropMark :
    ('?' ∈ (dropMark uri).toList ↔ '?' ∈ uri.toList) ∧ queryOf (dropMark uri) = queryOf uri := by
  rcases marked_or_head?_ne uri with ⟨rest, rfl⟩ | unmarked
  · rw [dropMark_ofList]
    simp [queryOf, fragmentMark]
  · rw [dropMark_of_head?_ne unmarked]
    exact ⟨Iff.rfl, rfl⟩

end Extending

/-- What a route makes of the longer URI is what it makes of the shorter one, and the parameter. -/
theorem matchUri_extend (route : Route) {uri name raw text : String}
    (queried : '?' ∈ uri.toList → queryOf uri ≠ []) (clean : Query.IsClean name)
    (whole : '&' ∉ raw.toList) (decoded : Percent.decode raw = .ok text) :
    route.matchUri (extend uri name raw) =
      (route.matchUri uri).map (Option.map fun found => found.extend name text) := by
  obtain ⟨path, query⟩ := parts_of_extend uri name raw
  have read : Query.parseChars (queryOf (extend uri name raw)) =
      (Query.parseChars (queryOf uri)).map fun params => params.insert name text := by
    rw [query]
    split
    · rename_i marked
      exact Query.parseChars_append_piece (queried marked) clean whole decoded
    · rename_i unmarked
      rw [(toList_of_not_mem unmarked).2, Query.parseChars_piece clean whole decoded]
      rfl
  cases search : route.template.capture (pathOf uri) with
  | none =>
      rw [matchUri_of_capture_none search, matchUri_of_capture_none (path ▸ search)]
      rfl
  | some captures =>
      rw [matchUri_of_capture_some search, matchUri_of_capture_some (path ▸ search), read]
      cases captures.mapM decodeCapture with
      | error fault => rfl
      | ok values => cases Query.parseChars (queryOf uri) <;> rfl

end Route

end UriRouting
