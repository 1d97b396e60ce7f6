import Mathlib
import UriRouting.Template.Capture

/-! # The ways to divide a path among placeholders

A path matches a template when it is spelled by the literals with some texts in the placeholders,
and no text holds a slash. The search for captures finds such a division whenever there is one, and
the lengths of the one that it finds are greater than those of any other, in lexicographic order.

What follows a placeholder is a template again, which begins with the literal after it. All
inductions are over the placeholders, with the literal in front of them left open.
-/

namespace UriRouting.Template

/-- What placeholders spell with the literals after them when they stand for the given texts. -/
def spellSlots : List Slot → List (List Char) → List Char
  | slot :: slots, text :: texts => text ++ (slot.literal ++ spellSlots slots texts)
  | _, _ => []

/-- The path that a template spells when its placeholders stand for the given texts. -/
def spell (template : Template) (texts : List (List Char)) : List Char :=
  template.head ++ spellSlots template.slots texts

/-- Texts for the placeholders that divide a path: one for each, none with a slash in it, and
together with the literals they spell the path. -/
structure IsDivision (template : Template) (captures : List (List Char)) (path : List Char) :
    Prop where
  arity : captures.length = template.slots.length
  segments : ∀ capture ∈ captures, '/' ∉ capture
  spells : template.spell captures = path

structure IsGreatestDivision (template : Template) (captures : List (List Char))
    (path : List Char) : Prop extends template.IsDivision captures path where
  greatest : ∀ others, template.IsDivision others path → others ≠ captures →
    List.Lex (· < ·) (others.map List.length) (captures.map List.length)

theorem isDivision_nil_iff {head path : List Char} {captures : List (List Char)} :
    IsDivision ⟨head, []⟩ captures path ↔ captures = [] ∧ path = head := by
  constructor
  · intro division
    have none : captures = [] := List.length_eq_zero_iff.mp division.arity
    subst none
    exact ⟨rfl, by simpa [spell, spellSlots] using division.spells.symm⟩
  · rintro ⟨rfl, rfl⟩
    exact ⟨rfl, by simp, by simp [spell, spellSlots]⟩

theorem isDivision_cons_iff {head path : List Char} {slot : Slot} {slots : List Slot}
    {captures : List (List Char)} :
    IsDivision ⟨head, slot :: slots⟩ captures path ↔
      ∃ capture later rest, captures = capture :: later ∧ path = head ++ (capture ++ rest) ∧
        '/' ∉ capture ∧ IsDivision ⟨slot.literal, slots⟩ later rest := by
  constructor
  · intro division
    cases captures with
    | nil => cases division.arity
    | cons capture later =>
        refine ⟨capture, later, spell ⟨slot.literal, slots⟩ later, rfl, division.spells.symm,
          division.segments capture List.mem_cons_self, ?_⟩
        exact ⟨Nat.succ.inj division.arity,
          fun other member => division.segments other (List.mem_cons_of_mem _ member), rfl⟩
  · rintro ⟨capture, later, rest, rfl, rfl, noSlash, division⟩
    refine ⟨congrArg Nat.succ division.arity, ?_, ?_⟩
    · intro other member
      rcases List.mem_cons.mp member with rfl | inside
      · exact noSlash
      · exact division.segments other inside
    · exact congrArg (fun tail => head ++ (capture ++ tail)) division.spells

theorem capture_nil (head path : List Char) :
    capture ⟨head, []⟩ path = if path = head then some [] else none := by
  unfold capture
  cases dropped : Text.dropStart? head path with
  | none =>
      have differs : path ≠ head := by
        rintro rfl
        have whole := Text.dropStart?_eq_some_iff.mpr (List.append_nil path).symm
        rw [dropped] at whole
        cases whole
      rw [if_neg differs]
      rfl
  | some rest =>
      obtain rfl := Text.dropStart?_eq_some_iff.mp dropped
      cases rest <;> simp [captureSlots]

theorem capture_cons (head path : List Char) (slot : Slot) (slots : List Slot) :
    capture ⟨head, slot :: slots⟩ path =
      (Text.dropStart? head path).bind fun rest =>
        (takeLongest (capture ⟨slot.literal, slots⟩) rest).map
          fun (capture, captures) => capture :: captures := rfl

/-- If some beginning can be taken, then one at least as long is taken. -/
theorem takeLongest_of_accept {α : Type} {accept : List Char → Option α}
    {capture rest : List Char} {found : α} (noSlash : '/' ∉ capture)
    (accepted : accept rest = some found) :
    ∃ longest value, takeLongest accept (capture ++ rest) = some (longest, value) ∧
      capture.length ≤ longest.length := by
  induction capture with
  | nil =>
      cases rest with
      | nil => exact ⟨[], found, by simp [takeLongest, accepted], Nat.le_refl _⟩
      | cons c later =>
          by_cases slash : c = '/'
          · exact ⟨[], found, by simp [takeLongest, slash, ← accepted], Nat.le_refl _⟩
          · cases taken : takeLongest accept later with
            | none =>
                exact ⟨[], found, by simp [takeLongest, slash, taken, accepted], Nat.le_refl _⟩
            | some more =>
                exact ⟨c :: more.1, more.2, by simp [takeLongest, slash, taken], Nat.zero_le _⟩
  | cons c later ih =>
      simp only [List.mem_cons, not_or] at noSlash
      obtain ⟨longest, value, taken, longer⟩ := ih noSlash.2
      refine ⟨c :: longest, value, ?_, Nat.succ_le_succ longer⟩
      rw [List.cons_append, takeLongest, if_neg (Ne.symm noSlash.1), taken]

theorem isDivision_of_capture {template : Template} {path : List Char}
    {captures : List (List Char)} (found : template.capture path = some captures) :
    template.IsDivision captures path := by
  obtain ⟨head, slots⟩ := template
  induction slots generalizing head path captures with
  | nil =>
      rw [capture_nil] at found
      split at found
      · rename_i whole
        exact isDivision_nil_iff.mpr ⟨(Option.some.inj found).symm, whole⟩
      · cases found
  | cons slot slots ih =>
      rw [capture_cons] at found
      obtain ⟨rest, start, found⟩ := Option.bind_eq_some_iff.mp found
      obtain ⟨⟨capture, later⟩, taken, rfl⟩ := Option.map_eq_some_iff.mp found
      obtain ⟨after, rfl, noSlash, accepted⟩ := takeLongest_eq_some taken
      exact isDivision_cons_iff.mpr ⟨capture, later, after, rfl,
        Text.dropStart?_eq_some_iff.mp start, noSlash, ih _ accepted⟩

theorem exists_capture_of_isDivision {template : Template} {path : List Char}
    {captures : List (List Char)} (division : template.IsDivision captures path) :
    ∃ found, template.capture path = some found := by
  obtain ⟨head, slots⟩ := template
  induction slots generalizing head path captures with
  | nil =>
      obtain ⟨-, rfl⟩ := isDivision_nil_iff.mp division
      exact ⟨[], by rw [capture_nil, if_pos rfl]⟩
  | cons slot slots ih =>
      obtain ⟨capture, later, rest, rfl, rfl, noSlash, division⟩ := isDivision_cons_iff.mp division
      obtain ⟨found, accepted⟩ := ih _ division
      obtain ⟨longest, value, taken, -⟩ := takeLongest_of_accept noSlash accepted
      refine ⟨longest :: value, ?_⟩
      rw [capture_cons, Text.dropStart?_eq_some_iff.mpr rfl, Option.bind_some, taken]
      rfl

/-- Every division but the one that is found has smaller lengths. -/
theorem lex_of_capture {template : Template} {path : List Char} {captures others : List (List Char)}
    (found : template.capture path = some captures) (division : template.IsDivision others path)
    (different : others ≠ captures) :
    List.Lex (· < ·) (others.map List.length) (captures.map List.length) := by
  obtain ⟨head, slots⟩ := template
  induction slots generalizing head path captures others with
  | nil =>
      obtain ⟨rfl, -⟩ := isDivision_nil_iff.mp division
      obtain ⟨rfl, -⟩ := isDivision_nil_iff.mp (isDivision_of_capture found)
      exact absurd rfl different
  | cons slot slots ih =>
      obtain ⟨other, others, rest, rfl, rfl, noSlash, division⟩ := isDivision_cons_iff.mp division
      rw [capture_cons, Text.dropStart?_eq_some_iff.mpr rfl, Option.bind_some] at found
      obtain ⟨⟨capture, later⟩, taken, rfl⟩ := Option.map_eq_some_iff.mp found
      obtain ⟨_, accepted⟩ := exists_capture_of_isDivision division
      obtain ⟨longest, value, same, longer⟩ := takeLongest_of_accept noSlash accepted
      obtain ⟨rfl, rfl⟩ : capture = longest ∧ later = value := by
        simpa using taken.symm.trans same
      rcases Nat.lt_or_eq_of_le longer with shorter | equal
      · exact .rel shorter
      · -- As long as the longest one, the text is the same, and so is what follows it.
        obtain ⟨after, split, -, accepted⟩ := takeLongest_eq_some taken
        obtain ⟨rfl, rfl⟩ := List.append_inj split equal
        have tails : others ≠ later := fun same => different (congrArg (other :: ·) same)
        exact .cons (ih tails _ accepted division)

/-- The captures are the greatest division of the path. -/
theorem capture_eq_some_iff {template : Template} {path : List Char}
    {captures : List (List Char)} :
    template.capture path = some captures ↔ template.IsGreatestDivision captures path := by
  constructor
  · intro found
    exact ⟨isDivision_of_capture found, fun others => lex_of_capture found⟩
  · rintro ⟨division, greatest⟩
    obtain ⟨found, search⟩ := exists_capture_of_isDivision division
    by_cases same : found = captures
    · rw [search, same]
    · have smaller := greatest found (isDivision_of_capture search) same
      have greater := lex_of_capture search division (Ne.symm same)
      exact absurd greater (List.lex_asymm Nat.lt_asymm smaller)

theorem capture_eq_none_iff {template : Template} {path : List Char} :
    template.capture path = none ↔ ¬ ∃ captures, template.IsDivision captures path := by
  constructor
  · rintro missing ⟨captures, division⟩
    obtain ⟨found, search⟩ := exists_capture_of_isDivision division
    rw [missing] at search
    cases search
  · intro undivided
    cases search : template.capture path with
    | none => rfl
    | some captures => exact absurd ⟨captures, isDivision_of_capture search⟩ undivided

end UriRouting.Template
