import Mathlib

/-! # The first failure in a series

A function that may fail is applied to a list from left to right, up to the first item where it
fails. What comes of it is either all results or that one failure.
-/

namespace UriRouting

variable {α β γ ε : Type}

theorem bind_eq_ok_iff {first : Except ε α} {next : α → Except ε β} {result : β} :
    first >>= next = .ok result ↔ ∃ value, first = .ok value ∧ next value = .ok result := by
  cases first <;> simp [bind, Except.bind]

theorem bind_eq_error_iff {first : Except ε α} {next : α → Except ε β} {failure : ε} :
    first >>= next = .error failure ↔
      first = .error failure ∨ ∃ value, first = .ok value ∧ next value = .error failure := by
  cases first <;> simp [bind, Except.bind]

theorem map_eq_ok_iff {result : Except ε α} {f : α → β} {made : β} :
    result.map f = .ok made ↔ ∃ value, result = .ok value ∧ f value = made := by
  cases result <;> simp [Except.map]

theorem map_eq_error_iff {result : Except ε α} {f : α → β} {failure : ε} :
    result.map f = .error failure ↔ result = .error failure := by
  cases result <;> simp [Except.map]

theorem mapError_eq_ok_iff {δ : Type} {result : Except ε α} {g : ε → δ} {value : α} :
    result.mapError g = .ok value ↔ result = .ok value := by
  cases result <;> simp [Except.mapError]

theorem exists_map_eq_ok_iff {result : Except ε α} {f : α → β} :
    (∃ made, result.map f = .ok made) ↔ ∃ value, result = .ok value := by
  cases result <;> simp [Except.map]

theorem map_ofList_eq_ok_iff {result : Except ε (List Char)} {text : String} :
    result.map String.ofList = .ok text ↔ result = .ok text.toList := by
  rw [map_eq_ok_iff]
  constructor
  · rintro ⟨chars, done, rfl⟩
    rw [done, String.toList_ofList]
  · intro done
    exact ⟨_, done, String.ofList_toList⟩

/-- The failure of the first item, from the left, at which a function fails. -/
def FirstFailure (f : α → Except ε β) (items : List α) (failure : ε) : Prop :=
  ∃ before item after, items = before ++ item :: after ∧
    (∀ earlier ∈ before, ∃ result, f earlier = .ok result) ∧ f item = .error failure

theorem firstFailure_nil {f : α → Except ε β} {failure : ε} : ¬ FirstFailure f [] failure := by
  rintro ⟨before, item, after, split, -⟩
  cases before <;> cases split

theorem firstFailure_cons_iff {f : α → Except ε β} {item : α} {items : List α} {failure : ε} :
    FirstFailure f (item :: items) failure ↔
      f item = .error failure ∨
        (∃ result, f item = .ok result) ∧ FirstFailure f items failure := by
  constructor
  · rintro ⟨before, found, after, split, fine, fails⟩
    cases before with
    | nil =>
        obtain ⟨rfl, -⟩ := List.cons.inj split
        exact .inl fails
    | cons first before =>
        obtain ⟨rfl, rest⟩ := List.cons.inj split
        refine .inr ⟨fine _ List.mem_cons_self, before, found, after, rest, ?_, fails⟩
        exact fun earlier member => fine earlier (List.mem_cons_of_mem _ member)
  · rintro (fails | ⟨result, before, found, after, rfl, fine, fails⟩)
    · exact ⟨[], item, items, rfl, by simp, fails⟩
    · refine ⟨item :: before, found, after, rfl, ?_, fails⟩
      intro earlier member
      rcases List.mem_cons.mp member with rfl | member
      · exact result
      · exact fine earlier member

theorem firstFailure_append_iff {f : α → Except ε β} {first second : List α} {failure : ε} :
    FirstFailure f (first ++ second) failure ↔
      FirstFailure f first failure ∨
        (∀ item ∈ first, ∃ result, f item = .ok result) ∧ FirstFailure f second failure := by
  induction first with
  | nil => simp [firstFailure_nil]
  | cons item later ih =>
      rw [List.cons_append, firstFailure_cons_iff, firstFailure_cons_iff, ih]
      simp only [List.mem_cons, forall_eq_or_imp]
      tauto

theorem exists_firstFailure_iff {f : α → Except ε β} {items : List α} :
    (∃ failure, FirstFailure f items failure) ↔
      ∃ item ∈ items, ∃ failure, f item = .error failure := by
  induction items with
  | nil => simp [firstFailure_nil]
  | cons item later ih =>
      simp only [firstFailure_cons_iff, List.mem_cons, exists_eq_or_imp, ← ih]
      cases f item <;> simp

theorem mapM_eq_ok_iff {f : α → Except ε β} {items : List α} {results : List β} :
    items.mapM f = .ok results ↔
      List.Forall₂ (fun item result => f item = .ok result) items results := by
  induction items generalizing results with
  | nil =>
      simp only [List.mapM_nil, List.forall₂_nil_left_iff]
      exact ⟨fun h => (Except.ok.inj h).symm, fun h => h ▸ rfl⟩
  | cons item later ih =>
      rw [List.mapM_cons]
      cases first : f item with
      | error failure =>
          simp [bind, Except.bind, List.forall₂_cons_left_iff, first]
      | ok result =>
          cases rest : later.mapM f with
          | error failure =>
              simp [bind, Except.bind, List.forall₂_cons_left_iff, first, ← ih, rest]
          | ok others =>
              simp [bind, Except.bind, pure, Except.pure, List.forall₂_cons_left_iff, first, ← ih,
                rest, eq_comm]

theorem map_eq_of_forall₂ {R : α → β → Prop} {g : β → γ} {h : α → γ} {items : List α}
    {results : List β} (related : List.Forall₂ R items results)
    (same : ∀ item ∈ items, ∀ result, R item result → g result = h item) :
    results.map g = items.map h := by
  induction related with
  | nil => rfl
  | cons first _ ih =>
      rw [List.forall_mem_cons] at same
      rw [List.map_cons, List.map_cons, same.1 _ first, ih same.2]

theorem exists_of_mapM_eq_ok {f : α → Except ε β} {items : List α} {results : List β}
    (done : items.mapM f = .ok results) {result : β} (member : result ∈ results) :
    ∃ item ∈ items, f item = .ok result := by
  rw [mapM_eq_ok_iff] at done
  induction done with
  | nil => cases member
  | cons first _ ih =>
      rcases List.mem_cons.mp member with rfl | later
      · exact ⟨_, List.mem_cons_self, first⟩
      · obtain ⟨item, inside, fine⟩ := ih later
        exact ⟨item, List.mem_cons_of_mem _ inside, fine⟩

/-- The series fails exactly with its first failure. -/
theorem mapM_eq_error_iff {f : α → Except ε β} {items : List α} {failure : ε} :
    items.mapM f = .error failure ↔ FirstFailure f items failure := by
  induction items with
  | nil => simp [firstFailure_nil, pure, Except.pure]
  | cons item later ih =>
      rw [List.mapM_cons, firstFailure_cons_iff, ← ih]
      cases first : f item with
      | error other => simp [bind, Except.bind]
      | ok result => cases later.mapM f <;> simp [bind, Except.bind, pure, Except.pure]

theorem exists_mapM_eq_ok_iff {f : α → Except ε β} {items : List α} :
    (∃ results, items.mapM f = .ok results) ↔ ∀ item ∈ items, ∃ result, f item = .ok result := by
  induction items with
  | nil => simp [pure, Except.pure]
  | cons item later ih =>
      rw [List.forall_mem_cons, ← ih, List.mapM_cons]
      constructor
      · rintro ⟨results, whole⟩
        obtain ⟨result, first, rest⟩ := bind_eq_ok_iff.mp whole
        obtain ⟨others, rest, -⟩ := bind_eq_ok_iff.mp rest
        exact ⟨⟨result, first⟩, others, rest⟩
      · rintro ⟨⟨result, first⟩, others, rest⟩
        exact ⟨result :: others, by rw [first, rest]; rfl⟩

end UriRouting
