import Mathlib
import UriRouting.Query
import UriRouting.Proofs.Failure
import UriRouting.Proofs.Params.Entries
import UriRouting.Proofs.Text.Pieces

/-! # What reading a query gives

The pieces are read from left to right, and only the values in them can fail: a query is faulty
exactly with the first of its values that cannot be decoded, whichever name it belongs to. The names
of a query that could be read hold no separator.
-/

namespace UriRouting.Query

/-- A name that can be written into a query and read back. -/
def IsClean (name : String) : Prop :=
  '&' ∉ name.toList ∧ '=' ∉ name.toList

instance (name : String) : Decidable (IsClean name) :=
  inferInstanceAs (Decidable ('&' ∉ name.toList ∧ '=' ∉ name.toList))

def values (query : List Char) : List (List Char) :=
  if query.isEmpty then []
  else (Text.pieces '&' query).filterMap fun piece => (Text.cut '=' piece).2

theorem readPiece_of_not_mem {piece : List Char} (absent : '=' ∉ piece) :
    readPiece piece = .ok (String.ofList piece, "") := by
  rw [readPiece, Text.cut_of_not_mem absent]

theorem readPiece_append {name : List Char} (absent : '=' ∉ name) (value : List Char) :
    readPiece (name ++ '=' :: value) =
      (Percent.decodeChars value).map fun text => (String.ofList name, String.ofList text) := by
  rw [readPiece, Text.cut_append absent]
  dsimp only
  cases Percent.decodeChars value <;> rfl

theorem fst_of_readPiece {piece : List Char} {entry : String × String}
    (read : readPiece piece = .ok entry) : entry.1 = String.ofList (Text.cut '=' piece).1 := by
  unfold readPiece at read
  split at read
  · rename_i name whole
    rw [whole, ← Except.ok.inj read]
  · rename_i name value divided
    rw [divided]
    cases decoded : Percent.decodeChars value with
    | error fault => simp [decoded, bind, Except.bind] at read
    | ok text =>
        simp only [decoded, bind, Except.bind, pure, Except.pure, Except.ok.injEq] at read
        rw [← read]

theorem isClean_of_readPiece {piece : List Char} {entry : String × String}
    (whole : '&' ∉ piece) (read : readPiece piece = .ok entry) : IsClean entry.1 := by
  have part : (Text.cut '=' piece).1 <+: piece := Text.cut_fst_prefix '=' piece
  rw [IsClean, fst_of_readPiece read, String.toList_ofList]
  exact ⟨fun inside => whole (part.subset inside), Text.not_mem_cut_fst '=' piece⟩

theorem parseChars_of_ne_nil {query : List Char} (filled : query ≠ []) :
    parseChars query = ((Text.pieces '&' query).mapM readPiece).map Params.ofList := by
  cases query with
  | nil => exact absurd rfl filled
  | cons c rest => rfl

theorem exists_of_parseChars {query : List Char} (filled : query ≠ []) {params : Params String}
    (read : parseChars query = .ok params) :
    ∃ entries, (Text.pieces '&' query).mapM readPiece = .ok entries ∧
      Params.ofList entries = params := by
  rwa [parseChars_of_ne_nil filled, map_eq_ok_iff] at read

theorem isClean_of_parseChars {query : List Char} {params : Params String}
    (read : parseChars query = .ok params) : ∀ name ∈ params.keys, IsClean name := by
  intro name member
  by_cases filled : query = []
  · subst filled
    rw [← Except.ok.inj read] at member
    exact absurd member List.not_mem_nil
  · obtain ⟨entries, parts, rfl⟩ := exists_of_parseChars filled read
    rw [Params.keys_ofList, List.mem_eraseDups] at member
    obtain ⟨entry, inside, rfl⟩ := List.mem_map.mp member
    obtain ⟨piece, member, fine⟩ := exists_of_mapM_eq_ok parts inside
    exact isClean_of_readPiece (Text.not_mem_of_mem_pieces member) fine

theorem readPiece_eq_error_iff {piece : List Char} {fault : Utf8.Fault} :
    readPiece piece = .error fault ↔
      ∃ value, (Text.cut '=' piece).2 = some value ∧ Percent.decodeChars value = .error fault := by
  unfold readPiece
  split
  · rename_i name whole
    simp [whole]
  · rename_i name value divided
    cases decoded : Percent.decodeChars value <;>
      simp [divided, decoded, bind, Except.bind, pure, Except.pure]

theorem readPiece_eq_ok_iff {piece : List Char} :
    (∃ entry, readPiece piece = .ok entry) ↔
      ∀ value, (Text.cut '=' piece).2 = some value → ∃ text, Percent.decodeChars value = .ok text := by
  unfold readPiece
  split
  · rename_i name whole
    simp [whole]
  · rename_i name value divided
    cases decoded : Percent.decodeChars value <;>
      simp [divided, decoded, bind, Except.bind, pure, Except.pure]

theorem firstFailure_readPiece_iff {parts : List (List Char)} {fault : Utf8.Fault} :
    FirstFailure readPiece parts fault ↔
      FirstFailure Percent.decodeChars (parts.filterMap fun piece => (Text.cut '=' piece).2)
        fault := by
  induction parts with
  | nil => exact iff_of_false firstFailure_nil firstFailure_nil
  | cons piece later ih =>
      rw [firstFailure_cons_iff, readPiece_eq_error_iff, readPiece_eq_ok_iff, ih]
      cases value : (Text.cut '=' piece).2 with
      | none => simp [value]
      | some value => simp [value, firstFailure_cons_iff]

/-- A query cannot be read exactly if one of its values cannot be decoded, and the first such value
is reported. -/
theorem parseChars_eq_error_iff {query : List Char} {fault : Utf8.Fault} :
    parseChars query = .error fault ↔ FirstFailure Percent.decodeChars (values query) fault := by
  by_cases filled : query = []
  · subst filled
    simp [parseChars, values, firstFailure_nil]
  · rw [parseChars_of_ne_nil filled, values, if_neg (by simpa using filled),
      ← firstFailure_readPiece_iff, map_eq_error_iff, mapM_eq_error_iff]

end UriRouting.Query
