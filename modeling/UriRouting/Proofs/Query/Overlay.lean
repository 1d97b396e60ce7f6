import Mathlib
import UriRouting.Proofs.Query.Reading

/-! # Queries behind one another

The parameters of two queries with an ampersand between them are those of the first query, overlaid with
those of the second one. Both have to be there: an empty query has no parameter, but in front of an
ampersand there is a piece, and be it empty.

So a query gives each of its names the value in the last piece that begins with this name, at the place of
the first such piece. A value that another one replaces must still be decoded.
-/

namespace UriRouting.Query

/-- Whether a piece of a query gives a name a value. -/
def Gives (piece : List Char) (entry : String × String) : Prop :=
  '=' ∉ entry.1.toList ∧
    (piece = entry.1.toList ∧ entry.2 = "" ∨
      ∃ value, piece = entry.1.toList ++ '=' :: value ∧
        Percent.decodeChars value = .ok entry.2.toList)

theorem readPiece_eq_ok_iff_gives {piece : List Char} {entry : String × String} :
    readPiece piece = .ok entry ↔ Gives piece entry := by
  constructor
  · intro read
    by_cases mark : '=' ∈ piece
    · obtain ⟨name, value, rfl, absent⟩ := List.eq_append_cons_of_mem mark
      rw [readPiece_append absent, map_eq_ok_iff] at read
      obtain ⟨text, decoded, rfl⟩ := read
      rw [Gives, String.toList_ofList, String.toList_ofList]
      exact ⟨absent, .inr ⟨value, rfl, decoded⟩⟩
    · rw [readPiece_of_not_mem mark] at read
      obtain rfl := Except.ok.inj read
      rw [Gives, String.toList_ofList]
      exact ⟨mark, .inl ⟨rfl, rfl⟩⟩
  · obtain ⟨name, text⟩ := entry
    rintro ⟨absent, ⟨rfl, rfl⟩ | ⟨value, rfl, decoded⟩⟩
    · rw [readPiece_of_not_mem absent, String.ofList_toList]
    · rw [readPiece_append absent, decoded, Except.map, String.ofList_toList, String.ofList_toList]

theorem readPiece_eq_error_iff_append {piece : List Char} {fault : Utf8.Fault} :
    readPiece piece = .error fault ↔
      ∃ name value, piece = name ++ '=' :: value ∧ '=' ∉ name ∧
        Percent.decodeChars value = .error fault := by
  simp only [readPiece_eq_error_iff, Text.cut_snd_eq_some_iff]
  constructor
  · rintro ⟨value, ⟨name, split, absent⟩, failed⟩
    exact ⟨name, value, split, absent, failed⟩
  · rintro ⟨name, value, split, absent, failed⟩
    exact ⟨value, ⟨name, split, absent⟩, failed⟩

/-- The parameters of a query behind another one lie over those of the other. -/
theorem parseChars_append {first second : List Char} (firstFilled : first ≠ [])
    (secondFilled : second ≠ []) :
    parseChars (first ++ '&' :: second) = do
      let below ← parseChars first
      let above ← parseChars second
      return below.overlay above := by
  have filled : first ++ '&' :: second ≠ [] := by simp
  rw [parseChars_of_ne_nil filled, parseChars_of_ne_nil firstFilled,
    parseChars_of_ne_nil secondFilled, Text.pieces_append, List.mapM_append]
  cases (Text.pieces '&' first).mapM readPiece with
  | error fault => rfl
  | ok below =>
      cases (Text.pieces '&' second).mapM readPiece with
      | error fault => rfl
      | ok above => exact congrArg Except.ok (Params.ofList_append below above)

theorem parseChars_eq_ok_iff {query : List Char} (filled : query ≠ []) {params : Params String} :
    parseChars query = .ok params ↔
      ∃ entries, List.Forall₂ Gives (Text.pieces '&' query) entries ∧ params.IsMapOf entries := by
  simp only [parseChars_of_ne_nil filled, map_eq_ok_iff, mapM_eq_ok_iff, readPiece_eq_ok_iff_gives,
    Params.isMapOf_iff, @eq_comm _ params]

theorem parseChars_eq_error_iff_append {query : List Char} (filled : query ≠ [])
    {fault : Utf8.Fault} :
    parseChars query = .error fault ↔
      ∃ before name value after,
        Text.pieces '&' query = before ++ (name ++ '=' :: value) :: after ∧ '=' ∉ name ∧
          (∀ earlier ∈ before, ∃ entry, Gives earlier entry) ∧
          Percent.decodeChars value = .error fault := by
  rw [parseChars_of_ne_nil filled, map_eq_error_iff, mapM_eq_error_iff]
  simp only [← readPiece_eq_ok_iff_gives]
  constructor
  · rintro ⟨before, piece, after, split, fine, failed⟩
    obtain ⟨name, value, rfl, absent, failed⟩ := readPiece_eq_error_iff_append.mp failed
    exact ⟨before, name, value, after, split, absent, fine, failed⟩
  · rintro ⟨before, name, value, after, split, absent, fine, failed⟩
    refine ⟨before, _, after, split, fine, ?_⟩
    exact readPiece_eq_error_iff_append.mpr ⟨name, value, rfl, absent, failed⟩

/-- Reading takes queries behind one another to maps over one another, and it reports the first fault. So
the parameters of a query are the map of what its pieces give, and the query is faulty as soon as a value
is, whether or not a later piece would have replaced it. -/
theorem parse_overlay :
    (∀ below above : Params String,
      (below.overlay above).IsMapOf (below.entries ++ above.entries)) ∧
    (∀ first second : String, first ≠ "" → second ≠ "" →
      parse (first ++ "&" ++ second) = do
        let below ← parse first
        let above ← parse second
        return below.overlay above) ∧
    ∀ query : String, query ≠ "" →
      let pieces := Text.pieces '&' query.toList
      (∀ params, parse query = .ok params ↔
        ∃ entries, List.Forall₂ Gives pieces entries ∧ params.IsMapOf entries) ∧
      ∀ fault, parse query = .error fault ↔
        ∃ before name value after, pieces = before ++ (name ++ '=' :: value) :: after ∧
          '=' ∉ name ∧ (∀ earlier ∈ before, ∃ entry, Gives earlier entry) ∧
          Percent.decodeChars value = .error fault := by
  have chars : ∀ query : String, query ≠ "" → query.toList ≠ [] :=
    fun _ filled => mt String.toList_eq_nil_iff.mp filled
  refine ⟨Params.isMapOf_overlay, ?_, ?_⟩
  · intro first second firstFilled secondFilled
    have whole : (first ++ "&" ++ second).toList = first.toList ++ '&' :: second.toList := by simp
    rw [parse, whole]
    exact parseChars_append (chars first firstFilled) (chars second secondFilled)
  · intro query filled
    exact ⟨fun _ => parseChars_eq_ok_iff (chars query filled),
      fun _ => parseChars_eq_error_iff_append (chars query filled)⟩

theorem parse_overlay_replaced :
    "b=%41&a" ≠ "" ∧ "a=1&&b" ≠ "" ∧
      parse ("b=%41&a" ++ "&" ++ "a=1&&b") = .ok (.ofList [("b", ""), ("a", "1"), ("", "")]) ∧
      "a=%FF" ≠ "" ∧ parse ("a=%FF" ++ "&" ++ "b=%41&a") = .error ⟨0, 0, 0xFF, .invalidStart⟩ ∧
      "x&a=%FF&a=1" ≠ "" ∧ parse "x&a=%FF&a=1" = .error ⟨0, 0, 0xFF, .invalidStart⟩ := by
  obtain ⟨-, parts, read⟩ := parse_overlay
  have first : "b=%41&a" ≠ "" := by decide
  have second : "a=1&&b" ≠ "" := by decide
  have faulty : "a=%FF" ≠ "" := by decide
  have replaced : "x&a=%FF&a=1" ≠ "" := by decide
  refine ⟨first, second, ?_, faulty, ?_, replaced, ?_⟩
  · rw [parts _ _ first second]
    decide
  · rw [parts _ _ faulty first]
    decide
  · refine ((read _ replaced).2 _).mpr ⟨["x".toList], "a".toList, "%FF".toList, ["a=1".toList], ?_⟩
    refine ⟨by decide, by decide, ?_, by decide⟩
    intro earlier member
    obtain rfl := List.mem_singleton.mp member
    exact ⟨("x", ""), by decide, .inl ⟨by decide, rfl⟩⟩

/-- An empty query counts once an ampersand is behind it. -/
example : parse ("" ++ "&" ++ "a=1") = .ok (.ofList [("", ""), ("a", "1")]) := by decide

end UriRouting.Query
