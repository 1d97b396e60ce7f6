import Mathlib
import UriRouting.Text.Replace

/-! # What occurs in a text after replacing

Where a text does not occur, replacing it changes nothing. What replacing puts in could make up new
occurrences together with what stands around it. It cannot if it is too long to lie inside of one and
holds neither the first nor the last character of one: then every occurrence was there before, and
the text that was replaced is gone for good.
-/

namespace UriRouting.Text

variable {old new text : List Char}

theorem replace_of_not_infix (absent : ¬ old <:+: text) : replace old new text = text := by
  induction text with
  | nil => rfl
  | cons c text ih =>
      rw [List.infix_cons_iff, not_or] at absent
      have stays := replace_cons_of_not_prefix absent.1 new
      rw [stays, ih absent.2]

theorem infix_of_infix_append {first : Char} {tail before after : List Char}
    (absent : first ∉ before) (found : first :: tail <:+: before ++ after) :
    first :: tail <:+: after := by
  induction before with
  | nil => exact found
  | cons c before ih =>
      simp only [List.mem_cons, not_or] at absent
      rcases List.infix_cons_iff.mp found with here | later
      · exact absurd (List.cons_prefix_cons.mp here).1 absent.1
      · exact ih absent.2 later

theorem prefix_of_prefix_replace {front : List Char} {last : Char} (filled : old ≠ [])
    (absent : last ∉ new) (long : front.length < new.length)
    (found : front ++ [last] <+: replace old new text) : front ++ [last] <+: text := by
  induction text generalizing front with
  | nil => exact found
  | cons c text ih =>
      by_cases here : old <+: c :: text
      · -- It would end inside of what was put in.
        obtain ⟨after, split⟩ := here
        rw [← split, replace_append filled] at found
        have inside : front ++ [last] <+: new :=
          List.prefix_of_prefix_length_le found (List.prefix_append new _) (by simpa using long)
        exact absurd (inside.subset (by simp)) absent
      · have stays := replace_cons_of_not_prefix here new
        rw [stays] at found
        cases front with
        | nil => exact List.cons_prefix_cons.mpr ⟨(List.cons_prefix_cons.mp found).1, List.nil_prefix⟩
        | cons d front =>
            obtain ⟨rfl, rest⟩ := List.cons_prefix_cons.mp found
            have shorter : front.length < new.length := by
              rw [List.length_cons] at long
              omega
            exact List.cons_prefix_cons.mpr ⟨rfl, ih shorter rest⟩

/-- What occurs after replacing occurred before, and is not what was replaced. -/
theorem infix_of_infix_replace {first last : Char} {middle text : List Char} (filled : old ≠ [])
    (noFirst : first ∉ new) (noLast : last ∉ new) (long : middle.length + 1 < new.length)
    (found : first :: (middle ++ [last]) <:+: replace old new text) :
    first :: (middle ++ [last]) ≠ old ∧ first :: (middle ++ [last]) <:+: text := by
  match text with
  | [] => exact absurd (List.infix_nil.mp found) (List.cons_ne_nil _ _)
  | c :: rest =>
      by_cases here : old <+: c :: rest
      · obtain ⟨after, split⟩ := here
        have shorter : after.length ≤ rest.length := by
          have positive := List.length_pos_of_ne_nil filled
          have lengths := congrArg List.length split
          rw [List.length_append, List.length_cons] at lengths
          omega
        rw [← split, replace_append filled] at found
        obtain ⟨different, later⟩ := infix_of_infix_replace filled noFirst noLast long
          (infix_of_infix_append noFirst found)
        exact ⟨different, split ▸ later.trans (List.suffix_append old after).isInfix⟩
      · have stays := replace_cons_of_not_prefix here new
        rw [stays] at found
        rcases List.infix_cons_iff.mp found with begins | later
        · rw [← stays, ← List.cons_append] at begins
          have before := prefix_of_prefix_replace filled noLast (by simpa using long) begins
          exact ⟨fun same => here (same ▸ before), before.isInfix⟩
        · obtain ⟨different, before⟩ := infix_of_infix_replace filled noFirst noLast long later
          exact ⟨different, before.trans (List.suffix_cons c rest).isInfix⟩
termination_by text.length

end UriRouting.Text
