import Mathlib
import UriRouting.Proofs.Template.Filling

/-! # What is left of a pattern

When values have been written into a pattern, the placeholders without a value still stand there, and
nothing else is a placeholder. The values are literal text now: they hold no opening brace, so they
begin nothing, and a closing brace closes only what was opened before it.
-/

namespace UriRouting.Template

variable {value? : List Char → Option (List Char)}

/-- What is left of a literal text and the placeholders behind it when values were written in. -/
def leave (value? : List Char → Option (List Char)) : List Char → List Slot → Template
  | head, [] => ⟨head, []⟩
  | head, slot :: slots =>
    let rest := leave value? slot.literal slots
    match value? slot.name with
    | some text => ⟨head ++ (text ++ rest.head), rest.slots⟩
    | none => ⟨head, ⟨slot.name, rest.head⟩ :: rest.slots⟩

section

variable {head text : List Char} {slot : Slot} {slots : List Slot}

theorem leave_of_some (value : value? slot.name = some text) :
    leave value? head (slot :: slots) =
      ⟨head ++ (text ++ (leave value? slot.literal slots).head),
        (leave value? slot.literal slots).slots⟩ := by
  rw [leave, value]

theorem leave_of_none (open_ : value? slot.name = none) :
    leave value? head (slot :: slots) =
      ⟨head, ⟨slot.name, (leave value? slot.literal slots).head⟩ ::
        (leave value? slot.literal slots).slots⟩ := by
  rw [leave, open_]

end

theorem render_leave (head : List Char) (slots : List Slot) :
    (leave value? head slots).render = write value? ⟨head, slots⟩ := by
  induction slots generalizing head with
  | nil => exact (List.append_nil head).trans (write_nil value? head).symm
  | cons slot slots ih =>
      rw [write_cons, ← ih, standIn]
      cases value : value? slot.name with
      | some text => simp [leave_of_some value, render]
      | none => simp [leave_of_none value, render, renderSlot, Route.token]

/-- The placeholders that are left are those without a value. -/
theorem names_leave (head : List Char) (slots : List Slot) :
    (leave value? head slots).names =
      (slots.map Slot.name).filter fun name => (value? name).isNone := by
  induction slots generalizing head with
  | nil => rfl
  | cons slot slots ih =>
      rw [List.map_cons, List.filter_cons, ← ih slot.literal]
      cases value : value? slot.name with
      | some text => rw [leave_of_some value]; rfl
      | none => rw [leave_of_none value]; rfl

theorem isCut_leave (values : ∀ name text, value? name = some text → '{' ∉ text) {head : List Char}
    {slots : List Slot} (cut : IsCut ⟨head, slots⟩) : (leave value? head slots).IsCut := by
  induction slots generalizing head with
  | nil => exact cut
  | cons slot slots ih =>
      obtain ⟨noOpen, noClose, later⟩ := isCut_cons_iff.mp cut
      cases value : value? slot.name with
      | some text =>
          rw [leave_of_some value]
          exact isCut_append noOpen (isCut_append (values slot.name text value) (ih later))
      | none =>
          rw [leave_of_none value]
          exact isCut_cons_iff.mpr ⟨noOpen, noClose, ih later⟩

theorem names_ofChars_write {template : Template} (cut : template.IsCut)
    (values : ∀ name text, value? name = some text → '{' ∉ text) :
    (ofChars (template.write value?)).names =
      template.names.filter fun name => (value? name).isNone := by
  have left : (leave value? template.head template.slots).render = template.write value? :=
    render_leave _ _
  rw [← left, ofChars_render (isCut_leave values cut), names_leave, names]

end UriRouting.Template
