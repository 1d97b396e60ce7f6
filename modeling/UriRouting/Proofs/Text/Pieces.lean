import Mathlib
import UriRouting.Text.Split

/-! # Joining and splitting

Pieces that hold no separator come back when they are joined and split again, and every text falls
into such pieces. Only the empty list of pieces is different: it is written like one empty piece.
-/

namespace UriRouting.Text

theorem cut_fst_prefix (sep : Char) (text : List Char) : (cut sep text).1 <+: text := by
  cases after : (cut sep text).2 with
  | none =>
      have whole := eq_of_cut_none (Prod.ext rfl after)
      exact ⟨[], (List.append_nil _).trans whole.symm⟩
  | some rest =>
      have parts := eq_of_cut_some (Prod.ext rfl after)
      exact ⟨sep :: rest, parts.symm⟩

theorem cut_snd_eq_some_iff {sep : Char} {text after : List Char} :
    (cut sep text).2 = some after ↔ ∃ before, text = before ++ sep :: after ∧ sep ∉ before := by
  constructor
  · intro found
    exact ⟨(cut sep text).1, eq_of_cut_some (Prod.ext rfl found), not_mem_cut_fst sep text⟩
  · rintro ⟨before, rfl, absent⟩
    rw [cut_append absent]

theorem pieces_of_not_mem {sep : Char} {text : List Char} (absent : sep ∉ text) :
    pieces sep text = [text] := by
  induction text with
  | nil => rfl
  | cons c rest ih =>
      simp only [List.mem_cons, not_or] at absent
      rw [pieces, if_neg (Ne.symm absent.1), ih absent.2]

theorem pieces_append (sep : Char) (before after : List Char) :
    pieces sep (before ++ sep :: after) = pieces sep before ++ pieces sep after := by
  induction before with
  | nil => simp [pieces]
  | cons c rest ih =>
      by_cases same : c = sep
      · simp only [List.cons_append, pieces, if_pos same, ih]
      · cases split : pieces sep rest with
        | nil => exact absurd split (pieces_ne_nil sep rest)
        | cons first others =>
            rw [split, List.cons_append] at ih
            simp only [List.cons_append, pieces, if_neg same, ih, split]

theorem length_pieces (sep : Char) (text : List Char) :
    (pieces sep text).length = text.count sep + 1 := by
  induction text with
  | nil => rfl
  | cons c rest ih =>
      rw [pieces, List.count_cons]
      by_cases same : c = sep
      · simp [same, ih]
      · cases split : pieces sep rest with
        | nil => exact absurd split (pieces_ne_nil sep rest)
        | cons first others =>
            rw [split] at ih
            simpa [same] using ih

theorem pieces_append_sep {sep : Char} {before : List Char} (absent : sep ∉ before)
    (after : List Char) : pieces sep (before ++ sep :: after) = before :: pieces sep after := by
  rw [pieces_append, pieces_of_not_mem absent, List.singleton_append]

/-- Pieces without separator, joined and split again, are the same pieces. -/
theorem pieces_join {sep : Char} {parts : List (List Char)} (filled : parts ≠ [])
    (absent : ∀ part ∈ parts, sep ∉ part) : pieces sep (join sep parts) = parts := by
  induction parts with
  | nil => exact absurd rfl filled
  | cons part later ih =>
      have first := absent part List.mem_cons_self
      cases later with
      | nil => exact pieces_of_not_mem first
      | cons next others =>
          have rest := ih (List.cons_ne_nil next others)
            fun other member => absent other (List.mem_cons_of_mem _ member)
          rw [join, pieces_append_sep first, rest]
          exact List.cons_ne_nil next others

theorem not_mem_of_mem_pieces {sep : Char} {text piece : List Char}
    (member : piece ∈ pieces sep text) : sep ∉ piece := by
  induction text generalizing piece with
  | nil =>
      obtain rfl := List.mem_singleton.mp member
      exact List.not_mem_nil
  | cons c rest ih =>
      by_cases same : c = sep
      · rw [pieces, if_pos same] at member
        rcases List.mem_cons.mp member with rfl | later
        · exact List.not_mem_nil
        · exact ih later
      · cases split : pieces sep rest with
        | nil => exact absurd split (pieces_ne_nil sep rest)
        | cons first others =>
            simp only [pieces, if_neg same, split, List.mem_cons] at member ih
            rcases member with rfl | later
            · simp only [List.mem_cons, not_or]
              exact ⟨Ne.symm same, ih (.inl rfl)⟩
            · exact ih (.inr later)

theorem infix_join {sep : Char} {part : List Char} {parts : List (List Char)}
    (member : part ∈ parts) : part <:+: join sep parts := by
  induction parts with
  | nil => cases member
  | cons first later ih =>
      cases later with
      | nil =>
          obtain rfl := List.mem_singleton.mp member
          exact List.infix_refl part
      | cons next others =>
          rcases List.mem_cons.mp member with rfl | inside
          · exact (List.prefix_append part _).isInfix
          · apply (ih inside).trans
            exact ((List.suffix_cons sep _).trans (List.suffix_append first _)).isInfix

theorem infix_of_mem_pieces {sep : Char} {text piece : List Char}
    (member : piece ∈ pieces sep text) : piece <:+: text := by
  have inside : piece <:+: join sep (pieces sep text) := infix_join member
  rwa [join_pieces] at inside

end UriRouting.Text
