/-! # Replacing text

Every occurrence of one text inside another is replaced, from left to right. Occurrences do not
overlap: the search goes on after the end of the one just found, and what was put in is not
searched again.
-/

namespace UriRouting.Text

/-- Replaces the occurrences of `old` in a text of which the first `skip` characters belong to an
occurrence that has been replaced already. -/
def replaceAfter (old new : List Char) : (skip : Nat) → List Char → List Char
  | _, [] => []
  | skip + 1, _ :: rest => replaceAfter old new skip rest
  | 0, c :: rest =>
    if old.isPrefixOf (c :: rest) then new ++ replaceAfter old new (old.length - 1) rest
    else c :: replaceAfter old new 0 rest

/-- Replaces every occurrence of the text `old`, which is not empty, by `new`. -/
def replace (old new text : List Char) : List Char :=
  replaceAfter old new 0 text

theorem replaceAfter_eq_drop (old new : List Char) (skip : Nat) (text : List Char) :
    replaceAfter old new skip text = replaceAfter old new 0 (text.drop skip) := by
  induction text generalizing skip with
  | nil => cases skip <;> simp [replaceAfter]
  | cons c rest ih =>
    cases skip with
    | zero => rfl
    | succ skip => simp [replaceAfter, ih skip]

theorem replace_append {old : List Char} (h : old ≠ []) (new rest : List Char) :
    replace old new (old ++ rest) = new ++ replace old new rest := by
  cases old with
  | nil => exact absurd rfl h
  | cons c old =>
    have found : (c :: old).isPrefixOf (c :: (old ++ rest)) = true := by
      rw [← List.cons_append]
      exact List.isPrefixOf_iff_prefix.mpr (List.prefix_append _ _)
    rw [replace, List.cons_append, replaceAfter, if_pos found, replaceAfter_eq_drop]
    simp [replace]

theorem replace_cons_of_not_prefix {old : List Char} {c : Char} {rest : List Char}
    (h : ¬ old <+: c :: rest) (new : List Char) :
    replace old new (c :: rest) = c :: replace old new rest := by
  have absent : old.isPrefixOf (c :: rest) = false := by
    rw [← Bool.not_eq_true, List.isPrefixOf_iff_prefix]
    exact h
  simp [replace, replaceAfter, absent]

end UriRouting.Text
