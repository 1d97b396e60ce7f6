import UriRouting.Template
import UriRouting.Text.Start

/-! # Matching a path against a template

A path matches when it is the literals of the template with some text in each placeholder, where
no text holds a slash. There may be several ways to divide a path among the placeholders. The
first placeholder takes as much as it can, then the second one of what is left, and so on: among
all ways to divide the path, the captured lengths are the greatest in lexicographic order.
-/

namespace UriRouting.Template

/-- The longest text without slash (`_SEGMENT`) at the beginning of a path for which the rest of the
path is accepted, with what was found in that rest. -/
def takeLongest {α : Type} (accept : List Char → Option α) : List Char → Option (List Char × α)
  | [] => (accept []).map (([], ·))
  | c :: rest =>
    if c = '/' then (accept (c :: rest)).map (([], ·))
    else
      match takeLongest accept rest with
      | some (capture, found) => some (c :: capture, found)
      | none => (accept (c :: rest)).map (([], ·))

/-- What placeholders capture when they divide a path with the literals after each of them. -/
def captureSlots : List Slot → List Char → Option (List (List Char))
  | [], path => if path.isEmpty then some [] else none
  | slot :: slots, path =>
    let accepts rest := (Text.dropStart? slot.literal rest).bind (captureSlots slots)
    (takeLongest accepts path).map fun (capture, captures) => capture :: captures

/-- What the placeholders of a template capture of a path, or nothing if the path does not match the
whole of it (`_compile_pattern`). -/
def capture (template : Template) (path : List Char) : Option (List (List Char)) :=
  (Text.dropStart? template.head path).bind (captureSlots template.slots)

theorem eq_nil_of_map_eq_some {α : Type} {result : Option α} {capture : List Char} {found : α}
    (h : result.map (([], ·)) = some (capture, found)) : capture = [] ∧ result = some found := by
  cases result with
  | none => simp at h
  | some value =>
    simp only [Option.map_some, Option.some.injEq, Prod.mk.injEq] at h
    exact ⟨h.1.symm, congrArg some h.2⟩

/-- What is taken is the beginning of the path and holds no slash, and the rest is accepted. -/
theorem takeLongest_eq_some {α : Type} {accept : List Char → Option α} {path capture : List Char}
    {found : α} (h : takeLongest accept path = some (capture, found)) :
    ∃ rest, path = capture ++ rest ∧ '/' ∉ capture ∧ accept rest = some found := by
  induction path generalizing capture with
  | nil =>
    obtain ⟨rfl, haccept⟩ := eq_nil_of_map_eq_some h
    exact ⟨[], by simp [haccept]⟩
  | cons c rest ih =>
    by_cases hc : c = '/'
    · rw [takeLongest, if_pos hc] at h
      obtain ⟨rfl, haccept⟩ := eq_nil_of_map_eq_some h
      exact ⟨c :: rest, by simp [haccept]⟩
    · rw [takeLongest, if_neg hc] at h
      cases hrest : takeLongest accept rest with
      | none =>
        rw [hrest] at h
        obtain ⟨rfl, haccept⟩ := eq_nil_of_map_eq_some h
        exact ⟨c :: rest, by simp [haccept]⟩
      | some taken =>
        obtain ⟨longer, value⟩ := taken
        rw [hrest] at h
        simp only [Option.some.injEq, Prod.mk.injEq] at h
        obtain ⟨rfl, rfl⟩ := h
        obtain ⟨left, hleft, hslash, haccept⟩ := ih hrest
        exact ⟨left, by simp [hleft], by simp [hslash, Ne.symm hc], haccept⟩

end UriRouting.Template
