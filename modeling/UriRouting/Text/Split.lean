/-! # Splitting at a separator

A URI is taken apart at single characters: the path ends at the first question mark, a query
falls into pieces at every ampersand, a piece into key and value at its first equals sign.
Nothing is lost by either way of splitting: the parts, joined again with the separator, are the
text.
-/

namespace UriRouting.Text

/-- The text before the first separator, and the text after it if there is a separator. -/
def cut (sep : Char) : List Char → List Char × Option (List Char)
  | [] => ([], none)
  | c :: rest =>
    if c = sep then ([], some rest)
    else
      let (before, after) := cut sep rest
      (c :: before, after)

/-- The pieces between the separators. There is one more piece than separators, so a text without
separator is its own only piece. -/
def pieces (sep : Char) : List Char → List (List Char)
  | [] => [[]]
  | c :: rest =>
    if c = sep then [] :: pieces sep rest
    else
      match pieces sep rest with
      | [] => [[c]]
      | piece :: later => (c :: piece) :: later

def join (sep : Char) : List (List Char) → List Char
  | [] => []
  | [piece] => piece
  | piece :: later => piece ++ sep :: join sep later

theorem eq_of_cut_some {sep : Char} {text before after : List Char}
    (h : cut sep text = (before, some after)) : text = before ++ sep :: after := by
  induction text generalizing before with
  | nil => simp [cut] at h
  | cons c rest ih =>
    by_cases hc : c = sep
    · simp_all [cut]
    · simp only [cut, hc, if_false, Prod.mk.injEq] at h
      obtain ⟨rfl, hafter⟩ := h
      simp [← ih (Prod.ext rfl hafter)]

theorem eq_of_cut_none {sep : Char} {text before : List Char}
    (h : cut sep text = (before, none)) : text = before := by
  induction text generalizing before with
  | nil => simp_all [cut]
  | cons c rest ih =>
    by_cases hc : c = sep
    · simp_all [cut]
    · simp only [cut, hc, if_false, Prod.mk.injEq] at h
      obtain ⟨rfl, hafter⟩ := h
      simp [← ih (Prod.ext rfl hafter)]

theorem not_mem_cut_fst (sep : Char) (text : List Char) : sep ∉ (cut sep text).1 := by
  induction text with
  | nil => simp [cut]
  | cons c rest ih =>
    by_cases hc : c = sep
    · simp [cut, hc]
    · simp [cut, hc, ih, Ne.symm hc]

/-- The cut falls at the first separator: a text that begins with `before`, in which there is no
separator, is cut right after it. -/
theorem cut_append {sep : Char} {before : List Char} (h : sep ∉ before) (after : List Char) :
    cut sep (before ++ sep :: after) = (before, some after) := by
  induction before with
  | nil => simp [cut]
  | cons c rest ih =>
    simp only [List.mem_cons, not_or] at h
    simp [cut, Ne.symm h.1, ih h.2]

theorem cut_of_not_mem {sep : Char} {text : List Char} (h : sep ∉ text) :
    cut sep text = (text, none) := by
  induction text with
  | nil => rfl
  | cons c rest ih =>
    simp only [List.mem_cons, not_or] at h
    simp [cut, Ne.symm h.1, ih h.2]

theorem pieces_ne_nil (sep : Char) (text : List Char) : pieces sep text ≠ [] := by
  cases text with
  | nil => simp [pieces]
  | cons c rest =>
    by_cases hc : c = sep
    · simp [pieces, hc]
    · simp only [pieces, hc, if_false]
      cases pieces sep rest <;> simp

theorem join_pieces (sep : Char) (text : List Char) : join sep (pieces sep text) = text := by
  induction text with
  | nil => rfl
  | cons c rest ih =>
    have hne := pieces_ne_nil sep rest
    by_cases hc : c = sep
    · cases hp : pieces sep rest with
      | nil => exact absurd hp hne
      | cons piece later =>
        rw [hp] at ih
        simp [pieces, hc, hp, join, ih]
    · cases hp : pieces sep rest with
      | nil => exact absurd hp hne
      | cons piece later =>
        rw [hp] at ih
        cases later <;> simp_all [pieces, join]

end UriRouting.Text
