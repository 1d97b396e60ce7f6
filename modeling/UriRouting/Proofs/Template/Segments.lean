import Mathlib
import UriRouting.Proofs.Template.Cut
import UriRouting.Proofs.Template.Division
import UriRouting.Proofs.Text.Pieces

/-! # Matching segment by segment

The slashes in the literals of a template cut it into segments, which are templates again. A slash in
a name cuts nothing. Since no text in a placeholder holds a slash, the slashes of a path are those of
the literals, and each segment is left alone with one piece of the path. So the search through the
whole path, with all its ways back, finds what independent searches find in the pieces.

Inductions are over the ways to put something in front of a template: a literal character or a
placeholder. Both change the first segment only, unless the character is a slash.
-/

namespace UriRouting.Template

/-- A literal character in front of segments. A slash ends a segment with nothing in it. -/
def segmentChar (c : Char) (segments : List Template) : List Template :=
  if c = '/' then ⟨[], []⟩ :: segments else segments.modifyHead (consChar c)

/-- The segments of placeholders and the literals behind them. -/
def segmentSlots : List Slot → List Template
  | [] => [⟨[], []⟩]
  | slot :: slots =>
    (slot.literal.foldr segmentChar (segmentSlots slots)).modifyHead (cons slot.name)

def segments (template : Template) : List Template :=
  template.head.foldr segmentChar (segmentSlots template.slots)

def captureEach (segments : List Template) (pieces : List (List Char)) :
    Option (List (List Char)) :=
  if segments.length = pieces.length then
    ((segments.zip pieces).mapM fun (entry : Template × List Char) =>
      entry.1.capture entry.2).map List.flatten
  else none

@[elab_as_elim]
theorem consInduction {motive : Template → Prop} (nil : motive ⟨[], []⟩)
    (char : ∀ c after, motive after → motive (consChar c after))
    (slot : ∀ name after, motive after → motive (cons name after)) (template : Template) :
    motive template := by
  have behind : ∀ slots, motive ⟨[], slots⟩ → ∀ head, motive ⟨head, slots⟩ := by
    intro slots start head
    induction head with
    | nil => exact start
    | cons c head ih => exact char c ⟨head, slots⟩ ih
  obtain ⟨head, slots⟩ := template
  apply behind
  induction slots with
  | nil => exact nil
  | cons first slots ih => exact slot first.name ⟨first.literal, slots⟩ (behind slots ih _)

theorem segments_nil : segments ⟨[], []⟩ = [⟨[], []⟩] := rfl

theorem segments_consChar (c : Char) (after : Template) :
    (consChar c after).segments = segmentChar c after.segments := rfl

theorem segments_cons (name : List Char) (after : Template) :
    (cons name after).segments = after.segments.modifyHead (cons name) := rfl

theorem segments_ne_nil (template : Template) : template.segments ≠ [] := by
  induction template using consInduction with
  | nil => exact List.cons_ne_nil _ _
  | char c after ih =>
      rw [segments_consChar, segmentChar]
      split
      · exact List.cons_ne_nil _ _
      · simpa using ih
  | slot name after ih =>
      rw [segments_cons]
      simpa using ih

section Splitting

variable (template : Template)

theorem flatMap_names_segments : template.segments.flatMap names = template.names := by
  induction template using consInduction with
  | nil => rfl
  | char c after ih =>
      rw [segments_consChar, segmentChar]
      split
      · exact ih
      · obtain ⟨first, later, split⟩ := List.exists_cons_of_ne_nil after.segments_ne_nil
        rw [split] at ih ⊢
        exact ih
  | slot name after ih =>
      obtain ⟨first, later, split⟩ := List.exists_cons_of_ne_nil after.segments_ne_nil
      rw [segments_cons, split]
      rw [split] at ih
      exact congrArg (name :: ·) ih

theorem join_render_segments :
    Text.join '/' (template.segments.map render) = template.render := by
  induction template using consInduction with
  | nil => rfl
  | char c after ih =>
      obtain ⟨first, later, split⟩ := List.exists_cons_of_ne_nil after.segments_ne_nil
      rw [segments_consChar, segmentChar, render_consChar, ← ih]
      by_cases slash : c = '/'
      · rw [if_pos slash, slash, split]
        rfl
      · rw [if_neg slash, split]
        cases later <;> rfl
  | slot name after ih =>
      obtain ⟨first, later, split⟩ := List.exists_cons_of_ne_nil after.segments_ne_nil
      rw [segments_cons, render_cons, ← ih, split]
      cases later <;> simp [Text.join, render_cons]

theorem slash_not_mem_segments :
    ∀ segment ∈ template.segments, ∀ literal ∈ segment.literals, '/' ∉ literal := by
  induction template using consInduction with
  | nil => simp [segments_nil, literals]
  | char c after ih =>
      obtain ⟨first, later, split⟩ := List.exists_cons_of_ne_nil after.segments_ne_nil
      rw [segments_consChar, segmentChar]
      by_cases slash : c = '/'
      · rw [if_pos slash, List.forall_mem_cons]
        exact ⟨by simp [literals], ih⟩
      · rw [split, List.forall_mem_cons] at ih
        rw [if_neg slash, split, List.modifyHead_cons, List.forall_mem_cons]
        refine ⟨?_, ih.2⟩
        obtain ⟨head, others⟩ := List.forall_mem_cons.mp ih.1
        have longer : '/' ∉ c :: first.head := by
          rw [List.mem_cons, not_or]
          exact ⟨Ne.symm slash, head⟩
        exact List.forall_mem_cons.mpr ⟨longer, others⟩
  | slot name after ih =>
      obtain ⟨first, later, split⟩ := List.exists_cons_of_ne_nil after.segments_ne_nil
      rw [split, List.forall_mem_cons] at ih
      rw [segments_cons, split, List.modifyHead_cons, List.forall_mem_cons]
      refine ⟨?_, ih.2⟩
      intro literal member
      rcases List.mem_cons.mp member with rfl | inside
      · exact List.not_mem_nil
      · exact ih.1 literal inside

end Splitting

theorem segments_of_literal (head : List Char) :
    segments ⟨head, []⟩ = (Text.pieces '/' head).map (⟨·, []⟩) := by
  induction head with
  | nil => rfl
  | cons c head ih =>
      change segmentChar c (segments ⟨head, []⟩) = _
      obtain ⟨piece, pieces, split⟩ := List.exists_cons_of_ne_nil (Text.pieces_ne_nil '/' head)
      rw [ih, segmentChar, Text.pieces, split]
      split <;> rfl

theorem HoldsToken.of_infix {part text : List Char} (holds : HoldsToken part)
    (inside : part <:+: text) : HoldsToken text := by
  obtain ⟨before, after, rfl, closed⟩ := holds
  obtain ⟨front, back, rfl⟩ := inside
  exact ⟨front ++ before, after ++ back, by simp, List.mem_append_left _ closed⟩

theorem isCut_segmentChar {c : Char} (literal : c ≠ '{') {segments : List Template}
    (cut : ∀ segment ∈ segments, segment.IsCut) :
    ∀ segment ∈ segmentChar c segments, segment.IsCut := by
  rw [segmentChar]
  split
  · exact List.forall_mem_cons.mpr ⟨isCut_ofChars [], cut⟩
  · cases segments with
    | nil => exact cut
    | cons first later =>
        obtain ⟨firstCut, laterCut⟩ := List.forall_mem_cons.mp cut
        exact List.forall_mem_cons.mpr ⟨isCut_consChar literal firstCut, laterCut⟩

theorem isCut_segments {template : Template} (cut : template.IsCut) :
    ∀ segment ∈ template.segments, segment.IsCut := by
  obtain ⟨head, slots⟩ := template
  induction slots generalizing head with
  | nil =>
      rw [segments_of_literal, List.forall_mem_map]
      intro piece member
      apply isCut_nil_iff.mpr
      intro holds
      exact isCut_nil_iff.mp cut (holds.of_infix (Text.infix_of_mem_pieces member))
  | cons slot slots ih =>
      obtain ⟨noOpen, noClose, later⟩ := isCut_cons_iff.mp cut
      clear cut
      induction head with
      | nil =>
          obtain ⟨first, others, split⟩ := List.exists_cons_of_ne_nil
            (segments_ne_nil ⟨slot.literal, slots⟩)
          have behind := ih slot.literal later
          rw [split, List.forall_mem_cons] at behind
          have whole : segments ⟨[], slot :: slots⟩ = cons slot.name first :: others :=
            congrArg (List.modifyHead (cons slot.name)) split
          rw [whole, List.forall_mem_cons]
          exact ⟨isCut_cons_iff.mpr ⟨List.not_mem_nil, noClose, behind.1⟩, behind.2⟩
      | cons c head more =>
          rw [List.mem_cons, not_or] at noOpen
          exact isCut_segmentChar (Ne.symm noOpen.1) (more noOpen.2)

section Capturing

theorem captureEach_cons (segment : Template) (segments : List Template) (piece : List Char)
    (pieces : List (List Char)) :
    captureEach (segment :: segments) (piece :: pieces) =
      (segment.capture piece).bind fun captures =>
        (captureEach segments pieces).map (captures ++ ·) := by
  unfold captureEach
  simp only [List.length_cons, Nat.add_right_cancel_iff, List.zip_cons_cons, List.mapM_cons]
  cases segment.capture piece with
  | none => split <;> rfl
  | some captures =>
      split
      · cases (segments.zip pieces).mapM fun (entry : Template × List Char) =>
          entry.1.capture entry.2 <;> rfl
      · rfl

/-- As long as a placeholder takes text from one piece only, the pieces behind it stay the same. -/
theorem takeLongest_of_pieces {α β : Type} {accept : List Char → Option β}
    {inner : List Char → Option α} {join : α → β} {path piece : List Char}
    {others : List (List Char)}
    (agrees : ∀ rest piece, Text.pieces '/' rest = piece :: others →
      accept rest = (inner piece).map join)
    (split : Text.pieces '/' path = piece :: others) :
    takeLongest accept path =
      (takeLongest inner piece).map fun (capture, found) => (capture, join found) := by
  induction path generalizing piece with
  | nil =>
      obtain ⟨rfl, -⟩ := List.cons.inj split
      rw [takeLongest, takeLongest, agrees [] [] split]
      cases inner [] <;> rfl
  | cons c rest ih =>
      by_cases slash : c = '/'
      · rw [takeLongest, if_pos slash, agrees _ _ split]
        rw [Text.pieces, if_pos slash] at split
        obtain ⟨rfl, -⟩ := List.cons.inj split
        rw [takeLongest]
        cases inner [] <;> rfl
      · have whole := agrees _ _ split
        obtain ⟨first, later, behind⟩ := List.exists_cons_of_ne_nil (Text.pieces_ne_nil '/' rest)
        rw [Text.pieces, if_neg slash, behind] at split
        obtain ⟨rfl, rfl⟩ := List.cons.inj split
        rw [takeLongest, if_neg slash, takeLongest, if_neg slash, ih behind, whole]
        cases takeLongest inner first with
        | none => cases inner (c :: first) <;> rfl
        | some taken => rfl

theorem takeLongest_none {α : Type} (path : List Char) :
    takeLongest (fun _ => (none : Option α)) path = none := by
  cases taken : takeLongest (fun _ => (none : Option α)) path with
  | none => rfl
  | some found =>
      obtain ⟨rest, -, -, accepted⟩ := takeLongest_eq_some taken
      cases accepted

theorem capture_consChar_nil (c : Char) (after : Template) :
    (consChar c after).capture [] = none := rfl

theorem capture_consChar_cons (c d : Char) (after : Template) (rest : List Char) :
    (consChar c after).capture (d :: rest) = if c = d then after.capture rest else none := by
  simp only [capture, consChar, Text.dropStart?]
  split <;> rfl

theorem capture_slot (name : List Char) (after : Template) (path : List Char) :
    (cons name after).capture path =
      (takeLongest after.capture path).map fun (capture, captures) => capture :: captures := rfl

theorem captureEach_segmentChar_nil (c : Char) {segments : List Template} (filled : segments ≠ []) :
    captureEach (segmentChar c segments) (Text.pieces '/' []) = none := by
  obtain ⟨first, later, rfl⟩ := List.exists_cons_of_ne_nil filled
  rw [segmentChar]
  split
  · rfl
  · rw [List.modifyHead_cons, Text.pieces, captureEach_cons, capture_consChar_nil]
    rfl

/-- A literal character in front of segments wants the same character in front of the path, and a slash
is no exception. -/
theorem captureEach_segmentChar_cons (c d : Char) {segments : List Template} (filled : segments ≠ [])
    (rest : List Char) :
    captureEach (segmentChar c segments) (Text.pieces '/' (d :: rest)) =
      if c = d then captureEach segments (Text.pieces '/' rest) else none := by
  obtain ⟨first, later, rfl⟩ := List.exists_cons_of_ne_nil filled
  obtain ⟨piece, pieces, split⟩ := List.exists_cons_of_ne_nil (Text.pieces_ne_nil '/' rest)
  rw [segmentChar, Text.pieces, split]
  by_cases slash : c = '/'
  · rw [if_pos slash, slash]
    by_cases ends : d = '/'
    · rw [if_pos ends.symm, if_pos ends, captureEach_cons ⟨[], []⟩]
      exact Option.map_id'
    · rw [if_neg (Ne.symm ends), if_neg ends, captureEach_cons]
      rfl
  · rw [if_neg slash, List.modifyHead_cons]
    by_cases ends : d = '/'
    · have differs : c ≠ d := by rwa [ends]
      rw [if_pos ends, if_neg differs, captureEach_cons, capture_consChar_nil]
      rfl
    · simp only [if_neg ends, captureEach_cons, capture_consChar_cons]
      split <;> rfl

/-- What a template captures of a path is what its segments capture of the pieces of the path. -/
theorem capture_eq_captureEach (template : Template) (path : List Char) :
    template.capture path = captureEach template.segments (Text.pieces '/' path) := by
  induction template using consInduction generalizing path with
  | nil =>
      rw [segments_nil, capture_nil]
      cases path with
      | nil => rfl
      | cons d rest =>
          obtain ⟨piece, pieces, split⟩ := List.exists_cons_of_ne_nil (Text.pieces_ne_nil '/' rest)
          by_cases slash : d = '/'
          · rw [Text.pieces, if_pos slash, split]
            rfl
          · rw [Text.pieces, if_neg slash, split, captureEach_cons]
            rfl
  | char c after ih =>
      rw [segments_consChar]
      cases path with
      | nil => rw [capture_consChar_nil, captureEach_segmentChar_nil c after.segments_ne_nil]
      | cons d rest =>
          rw [capture_consChar_cons, captureEach_segmentChar_cons c d after.segments_ne_nil, ih]
  | slot name after ih =>
      obtain ⟨first, later, segments⟩ := List.exists_cons_of_ne_nil after.segments_ne_nil
      obtain ⟨piece, pieces, split⟩ := List.exists_cons_of_ne_nil (Text.pieces_ne_nil '/' path)
      rw [segments] at ih
      rw [segments_cons, segments, split, List.modifyHead_cons, captureEach_cons, capture_slot,
        capture_slot]
      -- What the segments behind this one capture does not depend on how much is taken.
      have agrees : ∀ rest piece, Text.pieces '/' rest = piece :: pieces →
          after.capture rest = (first.capture piece).bind fun captures =>
            (captureEach later pieces).map (captures ++ ·) := by
        intro rest piece split
        rw [ih, split, captureEach_cons]
      cases behind : captureEach later pieces with
      | none =>
          have refused : ∀ rest piece, Text.pieces '/' rest = piece :: pieces →
              after.capture rest = (none : Option (List (List Char))).map id := by
            intro rest piece split
            rw [agrees rest piece split, behind]
            cases first.capture piece <;> rfl
          rw [takeLongest_of_pieces refused split, takeLongest_none]
          exact (Option.bind_fun_none _).symm
      | some captures =>
          have agrees : ∀ rest piece, Text.pieces '/' rest = piece :: pieces →
              after.capture rest = (first.capture piece).map (· ++ captures) := by
            intro rest piece split
            rw [agrees rest piece split, behind]
            cases first.capture piece <;> rfl
          rw [takeLongest_of_pieces agrees split]
          cases takeLongest first.capture piece <;> rfl

theorem exists_captureEach_iff {segments : List Template} {pieces : List (List Char)} :
    (∃ captures, captureEach segments pieces = some captures) ↔
      List.Forall₂ (fun segment piece => ∃ captures, segment.capture piece = some captures)
        segments pieces := by
  induction segments generalizing pieces with
  | nil =>
      cases pieces with
      | nil => exact iff_of_true ⟨[], rfl⟩ .nil
      | cons piece pieces => simp [captureEach]
  | cons segment segments ih =>
      cases pieces with
      | nil => simp [captureEach]
      | cons piece pieces =>
          rw [captureEach_cons, List.forall₂_cons, ← ih]
          cases segment.capture piece <;> cases captureEach segments pieces <;> simp

end Capturing

theorem length_segments (template : Template) :
    template.segments.length = template.literals.flatten.count '/' + 1 := by
  induction template using consInduction with
  | nil => rfl
  | char c after ih =>
      have longer : (consChar c after).literals.flatten = c :: after.literals.flatten := rfl
      rw [segments_consChar, segmentChar, longer, List.count_cons]
      by_cases slash : c = '/'
      · simp [slash, ih]
      · simp [slash, ih]
  | slot name after ih =>
      rw [segments_cons, List.length_modifyHead]
      exact ih

end UriRouting.Template
