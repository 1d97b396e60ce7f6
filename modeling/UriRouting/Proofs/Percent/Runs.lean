import Mathlib
import UriRouting.Percent

/-! # The longest runs of a text

A text falls into runs of ASCII characters and runs of other ones in one way only, if no run is empty and
neighbours are of different sorts. The division that decoding works with is this one.

Nothing here depends on what the runs stand for.
-/

namespace UriRouting.Percent.Run

def ofSort (ascii : Bool) (text : List Char) : Run :=
  if ascii then .ascii text else .other text

def ofAscii : Run → Bool
  | .ascii _ => true
  | .other _ => false

/-- Runs that make up a text, each as long as it can be. -/
structure AreMaximal (runs : List Run) (text : List Char) : Prop where
  whole : runs.flatMap chars = text
  filled : ∀ run ∈ runs, run.chars ≠ []
  uniform : ∀ run ∈ runs, ∀ c ∈ run.chars, isAscii c = run.ofAscii
  apart : runs.IsChain fun before after => before.ofAscii ≠ after.ofAscii

@[simp]
theorem chars_ofSort (ascii : Bool) (text : List Char) : (ofSort ascii text).chars = text := by
  cases ascii <;> rfl

@[simp]
theorem ofAscii_ofSort (ascii : Bool) (text : List Char) : (ofSort ascii text).ofAscii = ascii := by
  cases ascii <;> rfl

theorem ofSort_ofAscii (run : Run) : ofSort run.ofAscii run.chars = run := by
  cases run <;> rfl

theorem cons_ofSort (c : Char) (text : List Char) (later : List Run) :
    Run.cons c (ofSort (isAscii c) text :: later) = ofSort (isAscii c) (c :: text) :: later := by
  cases sort : isAscii c <;> simp [Run.cons, ofSort, sort]

theorem cons_of_ne {c : Char} {runs : List Run}
    (apart : ∀ next ∈ runs.head?, isAscii c ≠ next.ofAscii) :
    Run.cons c runs = ofSort (isAscii c) [c] :: runs := by
  cases runs with
  | nil => cases sort : isAscii c <;> simp [Run.cons, ofSort, sort]
  | cons next later =>
      have differs : isAscii c ≠ next.ofAscii := apart next rfl
      cases next <;> cases sort : isAscii c <;> simp_all [Run.cons, ofSort, ofAscii]

/-- A character in front of runs lengthens the first one or becomes a run of its own. -/
theorem cons_cases (c : Char) (runs : List Run) :
    (∃ text later, runs = ofSort (isAscii c) text :: later ∧
        Run.cons c runs = ofSort (isAscii c) (c :: text) :: later) ∨
      (∀ next ∈ runs.head?, isAscii c ≠ next.ofAscii) ∧
        Run.cons c runs = ofSort (isAscii c) [c] :: runs := by
  cases runs with
  | nil => exact .inr ⟨by simp, cons_of_ne (by simp)⟩
  | cons next later =>
      by_cases same : isAscii c = next.ofAscii
      · have known : next = ofSort (isAscii c) next.chars := by rw [same, ofSort_ofAscii]
        refine .inl ⟨next.chars, later, congrArg (· :: later) known, ?_⟩
        rw [known, cons_ofSort, chars_ofSort]
      · have apart : ∀ first ∈ (next :: later).head?, isAscii c ≠ first.ofAscii := by simpa using same
        exact .inr ⟨apart, cons_of_ne apart⟩

theorem split_cons (c : Char) (rest : List Char) :
    Run.split (c :: rest) = Run.cons c (Run.split rest) := rfl

theorem split_append {ascii : Bool} {text rest : List Char} (filled : text ≠ [])
    (uniform : ∀ c ∈ text, isAscii c = ascii)
    (apart : ∀ next ∈ (Run.split rest).head?, ascii ≠ next.ofAscii) :
    Run.split (text ++ rest) = ofSort ascii text :: Run.split rest := by
  induction text with
  | nil => exact absurd rfl filled
  | cons c text ih =>
      obtain ⟨rfl, uniform⟩ := List.forall_mem_cons.mp uniform
      rw [List.cons_append, split_cons]
      cases text with
      | nil => exact cons_of_ne apart
      | cons next later => rw [ih (List.cons_ne_nil next later) uniform, cons_ofSort]

theorem ofAscii_of_mem_head? {c : Char} {rest : List Char} {run : Run}
    (first : run ∈ (Run.split (c :: rest)).head?) : run.ofAscii = isAscii c := by
  rw [split_cons] at first
  rcases cons_cases c (Run.split rest) with ⟨text, later, -, runs⟩ | ⟨-, runs⟩
  · rw [runs, List.head?_cons, Option.mem_some_iff] at first
    rw [← first, ofAscii_ofSort]
  · rw [runs, List.head?_cons, Option.mem_some_iff] at first
    rw [← first, ofAscii_ofSort]

theorem areMaximal_nil : AreMaximal [] [] :=
  ⟨rfl, List.forall_mem_nil _, List.forall_mem_nil _, .nil⟩

theorem areMaximal_cons_iff {run : Run} {runs : List Run} {text : List Char} :
    AreMaximal (run :: runs) text ↔
      text = run.chars ++ runs.flatMap chars ∧ run.chars ≠ [] ∧
        (∀ c ∈ run.chars, isAscii c = run.ofAscii) ∧
        (∀ next ∈ runs.head?, run.ofAscii ≠ next.ofAscii) ∧
        AreMaximal runs (runs.flatMap chars) := by
  constructor
  · rintro ⟨whole, filled, uniform, apart⟩
    rw [List.forall_mem_cons] at filled uniform
    rw [List.isChain_cons] at apart
    exact ⟨whole.symm, filled.1, uniform.1, apart.1, rfl, filled.2, uniform.2, apart.2⟩
  · rintro ⟨rfl, filled, uniform, apart, later⟩
    exact ⟨rfl, List.forall_mem_cons.mpr ⟨filled, later.filled⟩,
      List.forall_mem_cons.mpr ⟨uniform, later.uniform⟩, List.isChain_cons.mpr ⟨apart, later.apart⟩⟩

theorem areMaximal_split (text : List Char) : AreMaximal (Run.split text) text := by
  induction text with
  | nil => exact areMaximal_nil
  | cons c rest ih =>
      rw [split_cons]
      rcases cons_cases c (Run.split rest) with ⟨text, later, runs, consed⟩ | ⟨apart, consed⟩
      · rw [runs, areMaximal_cons_iff, chars_ofSort, ofAscii_ofSort] at ih
        obtain ⟨rfl, -, uniform, apart, maximal⟩ := ih
        rw [consed, areMaximal_cons_iff, chars_ofSort, ofAscii_ofSort]
        exact ⟨rfl, List.cons_ne_nil c text, List.forall_mem_cons.mpr ⟨rfl, uniform⟩, apart, maximal⟩
      · rw [consed, areMaximal_cons_iff, chars_ofSort, ofAscii_ofSort, flatMap_chars_split]
        exact ⟨rfl, List.cons_ne_nil c [], by simp, apart, ih⟩

/-- There is one way to divide a text into longest runs. -/
theorem areMaximal_iff {runs : List Run} {text : List Char} :
    AreMaximal runs text ↔ runs = Run.split text := by
  constructor
  · intro maximal
    induction runs generalizing text with
    | nil =>
        obtain rfl := maximal.whole
        rfl
    | cons run runs ih =>
        obtain ⟨rfl, filled, uniform, apart, later⟩ := areMaximal_cons_iff.mp maximal
        have same := ih later
        have rest : Run.split (run.chars ++ runs.flatMap chars) =
            ofSort run.ofAscii run.chars :: Run.split (runs.flatMap chars) :=
          split_append filled uniform (same ▸ apart)
        rw [rest, ofSort_ofAscii, ← same]
  · rintro rfl
    exact areMaximal_split text

end UriRouting.Percent.Run
