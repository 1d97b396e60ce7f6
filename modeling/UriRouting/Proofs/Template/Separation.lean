import Mathlib
import UriRouting.Proofs.Percent.RoundTrip
import UriRouting.Proofs.Template.Cut
import UriRouting.Proofs.Template.Division

/-! # Paths that can be divided in one way only

Between two placeholders there may be a character that no encoded text holds. Where that is so
everywhere, encoded texts in the placeholders can be told from the literals. A different division
could only put such characters into its texts, and then they would be missing in the literals: the
literals alone hold all that the path has of them.
-/

namespace UriRouting.Template

open Percent (isWritten)

/-- Whether every literal between two placeholders holds a character that is neither unreserved nor
a percent sign. -/
def IsSeparated (template : Template) : Prop :=
  ∀ literal ∈ template.literals.tail.dropLast, ∃ c ∈ literal, isWritten c = false

-- The instances are named because the search would go through all characters there are.
instance (template : Template) : Decidable template.IsSeparated :=
  @List.decidableBAll _ _ (fun _ => List.decidableBEx _ _) _

theorem IsSeparated.cons {head : List Char} {slot next : Slot} {slots : List Slot}
    (separated : IsSeparated ⟨head, slot :: next :: slots⟩) :
    (∃ c ∈ slot.literal, isWritten c = false) ∧ IsSeparated ⟨slot.literal, next :: slots⟩ :=
  ⟨separated slot.literal List.mem_cons_self,
    fun literal member => separated literal (List.mem_cons_of_mem _ member)⟩

theorem takeWhile_append_of_mem {p : Char → Bool} {before : List Char} {c : Char}
    (member : c ∈ before) (fails : p c = false) (after : List Char) :
    (before ++ after).takeWhile p = before.takeWhile p := by
  induction before with
  | nil => cases member
  | cons first before ih =>
      rw [List.cons_append, List.takeWhile_cons, List.takeWhile_cons]
      split
      · rename_i holds
        rcases List.mem_cons.mp member with rfl | later
        · rw [fails] at holds
          cases holds
        · rw [ih later]
      · rfl

theorem countP_spell (p : Char → Bool) {template : Template} {texts : List (List Char)}
    (arity : texts.length = template.slots.length) :
    (template.spell texts).countP p =
      template.literals.flatten.countP p + texts.flatten.countP p := by
  obtain ⟨head, slots⟩ := template
  induction slots generalizing head texts with
  | nil =>
      obtain rfl := List.length_eq_zero_iff.mp arity
      simp [spell, spellSlots, literals]
  | cons slot slots ih =>
      cases texts with
      | nil => cases arity
      | cons text texts =>
          have later := ih slot.literal (Nat.succ.inj arity)
          have split : spell ⟨head, slot :: slots⟩ (text :: texts) =
            head ++ (text ++ spell ⟨slot.literal, slots⟩ texts) := rfl
          have all : literals ⟨head, slot :: slots⟩ = head :: literals ⟨slot.literal, slots⟩ := rfl
          rw [split, all, List.countP_append, List.countP_append, later, List.flatten_cons,
            List.flatten_cons, List.countP_append, List.countP_append]
          omega

theorem eq_of_written {template : Template} (separated : template.IsSeparated) {path : List Char}
    {captures others : List (List Char)} (division : template.IsDivision captures path)
    (other : template.IsDivision others path)
    (written : ∀ capture ∈ captures, ∀ c ∈ capture, isWritten c = true)
    (otherWritten : ∀ capture ∈ others, ∀ c ∈ capture, isWritten c = true) :
    others = captures := by
  obtain ⟨head, slots⟩ := template
  induction slots generalizing head path captures others with
  | nil => rw [(isDivision_nil_iff.mp division).1, (isDivision_nil_iff.mp other).1]
  | cons slot slots ih =>
      obtain ⟨first, captures, rest, rfl, rfl, -, behind⟩ := isDivision_cons_iff.mp division
      obtain ⟨second, others, remains, rfl, split, -, otherBehind⟩ := isDivision_cons_iff.mp other
      have paths := List.append_cancel_left split
      simp only [List.forall_mem_cons] at written otherWritten
      cases slots with
      | nil =>
          obtain ⟨rfl, rfl⟩ := isDivision_nil_iff.mp behind
          obtain ⟨rfl, rfl⟩ := isDivision_nil_iff.mp otherBehind
          rw [List.append_cancel_right paths]
      | cons next slots =>
          obtain ⟨⟨c, member, separates⟩, later⟩ := separated.cons
          have longest := congrArg (List.takeWhile isWritten) paths
          rw [← behind.spells, ← otherBehind.spells, List.takeWhile_append_of_pos written.1,
            List.takeWhile_append_of_pos otherWritten.1, spell, spell,
            takeWhile_append_of_mem member separates,
            takeWhile_append_of_mem member separates] at longest
          obtain rfl := List.append_cancel_right longest
          obtain rfl := List.append_cancel_left paths
          rw [ih written.2 otherWritten.2 slot.literal later behind otherBehind]

/-- Where literals separate, texts that could be encoded ones are the only division. -/
theorem eq_of_isDivision {template : Template} (separated : template.IsSeparated)
    {path : List Char} {captures others : List (List Char)}
    (division : template.IsDivision captures path) (other : template.IsDivision others path)
    (written : ∀ capture ∈ captures, ∀ c ∈ capture, isWritten c = true) : others = captures := by
  have none : captures.flatten.countP (fun c => !isWritten c) = 0 := by
    rw [List.countP_eq_zero]
    intro c member
    obtain ⟨capture, inside, member⟩ := List.mem_flatten.mp member
    simp [written capture inside c member]
  have count := countP_spell (fun c => !isWritten c) division.arity
  have otherCount := countP_spell (fun c => !isWritten c) other.arity
  rw [division.spells] at count
  rw [other.spells] at otherCount
  have otherNone : others.flatten.countP (fun c => !isWritten c) = 0 := by omega
  refine eq_of_written separated division other written fun capture member c inside => ?_
  have absent := List.countP_eq_zero.mp otherNone c (List.mem_flatten_of_mem member inside)
  simpa using absent

end UriRouting.Template
