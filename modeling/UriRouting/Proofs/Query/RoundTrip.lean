import Mathlib
import UriRouting.Route
import UriRouting.Proofs.Percent.RoundTrip
import UriRouting.Proofs.Query.Reading

/-! # Reading a query that was written

Names are written as they are, so only a name that holds neither of the two separators is read back.
Values are encoded and can be any text. What has been read has such names only, whatever the query
was, so it can always be written and read again.
-/

namespace UriRouting.Query

theorem readPiece_renderEntry {entry : String × String} (clean : IsClean entry.1) :
    readPiece (renderEntry entry) = .ok entry := by
  rw [renderEntry, readPiece_append clean.2, Percent.decodeChars_encodeChars, Except.map,
    String.ofList_toList, String.ofList_toList]

theorem ampersand_not_mem_renderEntry {entry : String × String} (clean : IsClean entry.1) :
    '&' ∉ renderEntry entry := by
  have value := Percent.not_mem_encodeChars (c := '&') (by decide) entry.2.toList
  simp only [renderEntry, List.mem_append, List.mem_cons, not_or]
  exact ⟨clean.1, by decide, value⟩

theorem renderChars_ne_nil {params : Params String} (filled : params.entries ≠ []) :
    renderChars params ≠ [] := by
  rw [renderChars]
  cases entries : params.entries with
  | nil => exact absurd entries filled
  | cons entry later => cases later <;> simp [Text.join, renderEntry]

/-- A query with clean names is read as what it was written from. -/
theorem parseChars_renderChars {params : Params String}
    (clean : ∀ name ∈ params.keys, IsClean name) :
    parseChars (renderChars params) = .ok params := by
  by_cases filled : params.entries = []
  · have nothing : params = .empty := Params.ext filled
    rw [nothing]
    rfl
  · have cleanEntry : ∀ entry ∈ params.entries, IsClean entry.1 :=
      fun entry member => clean entry.1 (List.mem_map_of_mem member)
    have parts : Text.pieces '&' (renderChars params) = params.entries.map renderEntry := by
      refine Text.pieces_join (by simpa using filled) ?_
      rintro _ member
      obtain ⟨entry, inside, rfl⟩ := List.mem_map.mp member
      exact ampersand_not_mem_renderEntry (cleanEntry entry inside)
    have read : (params.entries.map renderEntry).mapM readPiece = .ok params.entries := by
      rw [mapM_eq_ok_iff, List.forall₂_map_left_iff]
      exact List.forall₂_same.mpr fun entry member => readPiece_renderEntry (cleanEntry entry member)
    rw [parseChars_of_ne_nil (renderChars_ne_nil filled), parts, read]
    exact congrArg Except.ok params.ofList_entries

theorem buildWith_eq (route : Route) (routeParams params : Params String) :
    route.buildWith routeParams params =
      route.buildWith routeParams .empty ++ if params.isEmpty then "" else "?" ++ render params := by
  have path : route.buildWith routeParams .empty =
      String.ofList (route.fillAll routeParams.entries) := rfl
  rw [path, ← String.toList_inj]
  unfold Route.buildWith
  split <;> simp [render]

theorem parse_render_eq_ok_iff {params : Params String} :
    parse (render params) = .ok params ↔ ∀ name ∈ params.keys, IsClean name := by
  rw [parse, render, String.toList_ofList]
  constructor
  · intro read
    exact isClean_of_parseChars read
  · intro clean
    exact parseChars_renderChars clean

/-- Writing a query and reading it are inverse exactly for clean names, and whatever has been read
has clean names. The query of a URI is what is written behind the question mark. -/
theorem parse_render_inverse :
    (∀ (route : Route) (routeParams params : Params String),
      route.buildWith routeParams params = route.buildWith routeParams .empty ++
        if params.isEmpty then "" else "?" ++ render params) ∧
      render .empty = "" ∧
      (∀ params : Params String,
        parse (render params) = .ok params ↔ ∀ name ∈ params.keys, IsClean name) ∧
      ∀ (query : String) (params : Params String), parse query = .ok params →
        (∀ name ∈ params.keys, IsClean name) ∧ parse (render params) = .ok params := by
  refine ⟨buildWith_eq, rfl, fun _ => parse_render_eq_ok_iff, ?_⟩
  intro query params read
  have clean : ∀ name ∈ params.keys, IsClean name := isClean_of_parseChars read
  exact ⟨clean, parse_render_eq_ok_iff.mpr clean⟩

theorem parse_render_inverse_repeated :
    parse "a=%C3%A9?&b&=%&a=1=&b" = .ok (.ofList [("a", "1="), ("b", ""), ("", "%")]) ∧
      parse (render (.ofList [("a", "1="), ("b", ""), ("", "%")])) =
        .ok (.ofList [("a", "1="), ("b", ""), ("", "%")]) := by
  have read : parse "a=%C3%A9?&b&=%&a=1=&b" =
      .ok (.ofList [("a", "1="), ("b", ""), ("", "%")]) := by decide
  exact ⟨read, (parse_render_inverse.2.2.2 _ _ read).2⟩

end UriRouting.Query
