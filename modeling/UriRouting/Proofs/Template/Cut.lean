import Mathlib
import UriRouting.Template

/-! # Where a pattern is cut

A pattern is cut at its placeholders. A name ends at the first closing brace, and no literal in front
of a placeholder holds an opening brace, since that would have begun a placeholder earlier. The last
literal may hold opening braces, but none that is closed.
-/

namespace UriRouting.Template

def literals (template : Template) : List (List Char) :=
  template.head :: template.slots.map Slot.literal

/-- Whether some opening brace of a text is closed later. -/
def HoldsToken (text : List Char) : Prop :=
  ∃ before after, text = before ++ '{' :: after ∧ '}' ∈ after

/-- Whether a template has the names and literals that cutting at placeholders leaves. -/
structure IsCut (template : Template) : Prop where
  names : ∀ name ∈ template.names, '}' ∉ name
  literals : ∀ literal ∈ template.literals.dropLast, '{' ∉ literal
  last : ∀ literal ∈ template.literals.getLast?, ¬ HoldsToken literal

theorem not_holdsToken_of_not_mem {text : List Char} (absent : '}' ∉ text) : ¬ HoldsToken text := by
  rintro ⟨before, after, rfl, inside⟩
  exact absent (List.mem_append_right _ (List.mem_cons_of_mem _ inside))

theorem holdsToken_cons_iff {c : Char} {text : List Char} :
    HoldsToken (c :: text) ↔ (c = '{' ∧ '}' ∈ text) ∨ HoldsToken text := by
  constructor
  · rintro ⟨before, after, split, inside⟩
    cases before with
    | nil =>
        obtain ⟨rfl, rfl⟩ := List.cons.inj split
        exact .inl ⟨rfl, inside⟩
    | cons first before =>
        obtain ⟨-, rfl⟩ := List.cons.inj split
        exact .inr ⟨before, after, rfl, inside⟩
  · rintro (⟨rfl, inside⟩ | ⟨before, after, rfl, inside⟩)
    · exact ⟨[], text, rfl, inside⟩
    · exact ⟨c :: before, after, rfl, inside⟩

theorem isCut_nil_iff {head : List Char} : IsCut ⟨head, []⟩ ↔ ¬ HoldsToken head := by
  constructor
  · intro cut
    exact cut.last head rfl
  · intro closed
    refine ⟨by simp [names], by simp [Template.literals], ?_⟩
    intro literal last
    obtain rfl := Option.some.inj last
    exact closed

theorem isCut_cons_iff {head : List Char} {slot : Slot} {slots : List Slot} :
    IsCut ⟨head, slot :: slots⟩ ↔
      '{' ∉ head ∧ '}' ∉ slot.name ∧ IsCut ⟨slot.literal, slots⟩ := by
  constructor
  · intro cut
    refine ⟨cut.literals head List.mem_cons_self, cut.names slot.name List.mem_cons_self, ?_⟩
    exact ⟨fun name member => cut.names name (List.mem_cons_of_mem _ member),
      fun literal member => cut.literals literal (List.mem_cons_of_mem _ member), cut.last⟩
  · rintro ⟨noOpen, noClose, cut⟩
    refine ⟨?_, ?_, cut.last⟩
    · intro name member
      rcases List.mem_cons.mp member with rfl | later
      · exact noClose
      · exact cut.names name later
    · intro literal member
      rcases List.mem_cons.mp member with rfl | later
      · exact noOpen
      · exact cut.literals literal later

theorem isCut_consChar {c : Char} {template : Template} (literal : c ≠ '{')
    (cut : template.IsCut) : (consChar c template).IsCut := by
  obtain ⟨head, slots⟩ := template
  cases slots with
  | nil =>
      rw [isCut_nil_iff] at cut
      rw [consChar, isCut_nil_iff, holdsToken_cons_iff]
      rintro (⟨same, -⟩ | inside)
      · exact literal same
      · exact cut inside
  | cons slot slots =>
      rw [isCut_cons_iff] at cut
      rw [consChar, isCut_cons_iff, List.mem_cons, not_or]
      exact ⟨⟨Ne.symm literal, cut.1⟩, cut.2⟩

theorem isCut_append {before head : List Char} {slots : List Slot} (literal : '{' ∉ before)
    (cut : IsCut ⟨head, slots⟩) : IsCut ⟨before ++ head, slots⟩ := by
  induction before with
  | nil => exact cut
  | cons c before ih =>
      simp only [List.mem_cons, not_or] at literal
      exact isCut_consChar (Ne.symm literal.1) (ih literal.2)

theorem ofChars_of_not_holdsToken {text : List Char} (closed : ¬ HoldsToken text) :
    ofChars text = ⟨text, []⟩ := by
  induction text with
  | nil => rfl
  | cons c rest ih =>
      rw [holdsToken_cons_iff, not_or, not_and] at closed
      by_cases opens : c = '{'
      · subst opens
        rw [ofChars_unclosed (Text.cut_of_not_mem (closed.1 rfl)), ih closed.2, consChar]
      · rw [ofChars_literal opens, ih closed.2, consChar]

/-- Patterns are cut at their placeholders. -/
theorem isCut_ofChars (pattern : List Char) : (ofChars pattern).IsCut := by
  match pattern with
  | [] => exact isCut_nil_iff.mpr (not_holdsToken_of_not_mem List.not_mem_nil)
  | c :: rest =>
      by_cases opens : c = '{'
      · subst opens
        match closed : Text.cut '}' rest with
        | (name, some after) =>
            have split := Text.eq_of_cut_some closed
            have shorter : after.length < ('{' :: rest).length := by simp [split]; omega
            have noClose : '}' ∉ name := by simpa [closed] using Text.not_mem_cut_fst '}' rest
            rw [ofChars_open closed, cons, isCut_cons_iff]
            exact ⟨List.not_mem_nil, noClose, isCut_ofChars after⟩
        | (text, none) =>
            have noClose : '}' ∉ rest := by
              have inText := Text.not_mem_cut_fst '}' rest
              rwa [closed, ← Text.eq_of_cut_none closed] at inText
            rw [ofChars_unclosed closed,
              ofChars_of_not_holdsToken (not_holdsToken_of_not_mem noClose), consChar, isCut_nil_iff]
            exact not_holdsToken_of_not_mem (by simpa using noClose)
      · rw [ofChars_literal opens]
        exact isCut_consChar opens (isCut_ofChars rest)
termination_by pattern.length

theorem ofChars_append {before : List Char} (literal : '{' ∉ before) (text : List Char) :
    ofChars (before ++ text) = ⟨before ++ (ofChars text).head, (ofChars text).slots⟩ := by
  induction before with
  | nil => rfl
  | cons c before ih =>
      simp only [List.mem_cons, not_or] at literal
      rw [List.cons_append, ofChars_literal (Ne.symm literal.1), ih literal.2, consChar]
      rfl

/-- A pattern is cut in one way only. -/
theorem ofChars_render {template : Template} (cut : template.IsCut) :
    ofChars template.render = template := by
  obtain ⟨head, slots⟩ := template
  induction slots generalizing head with
  | nil =>
      rw [isCut_nil_iff] at cut
      rw [render, List.flatMap_nil, List.append_nil, ofChars_of_not_holdsToken cut]
  | cons slot slots ih =>
      obtain ⟨noOpen, noClose, later⟩ := isCut_cons_iff.mp cut
      have written : render ⟨head, slot :: slots⟩ =
          head ++ '{' :: (slot.name ++ '}' :: render ⟨slot.literal, slots⟩) := by
        simp [render, renderSlot]
      rw [written, ofChars_append noOpen, ofChars_open (Text.cut_append noClose _), ih _ later]
      simp [cons]

end UriRouting.Template
