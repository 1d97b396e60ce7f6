import Mathlib
import UriRouting.View.Signature
import UriRouting.Proofs.Failure
import UriRouting.Proofs.Params.Entries

/-! # What the hints of a view say

The hints are the annotations of the callee, as far as these mean something; if one means nothing,
there are no hints at all, and that is noticed of the hints only. What a signature tells has no part
in it.
-/

namespace UriRouting

section Resolving

variable {scope : Params Hint}

theorem resolveNamed_eq_ok_iff {ascribed : String × Ascription} {entry : String × Hint} :
    resolveNamed scope ascribed = .ok entry ↔
      ascribed.1 = entry.1 ∧ ascribed.2.resolve scope = .ok entry.2 := by
  obtain ⟨name, hint⟩ := entry
  unfold resolveNamed
  cases ascribed.2.resolve scope <;> simp

theorem resolveNamed_eq_error {ascribed : String × Ascription} {refusal : Refusal}
    (failed : resolveNamed scope ascribed = .error refusal) :
    ∃ name, refusal = .unknownName name := by
  unfold resolveNamed at failed
  cases resolved : ascribed.2.resolve scope with
  | ok hint => simp [resolved] at failed
  | error name =>
      rw [resolved] at failed
      exact ⟨name, (Except.error.inj failed).symm⟩

theorem lookup_of_resolved {ascribed : List (String × Ascription)} {resolved : List (String × Hint)}
    (related : List.Forall₂ (fun annotated entry => resolveNamed scope annotated = .ok entry)
      ascribed resolved) (name : String) :
    (resolved.lookup name = none ↔ ascribed.lookup name = none) ∧
      ∀ hint, resolved.lookup name = some hint ↔
        ∃ ascription, ascribed.lookup name = some ascription ∧
          ascription.resolve scope = .ok hint := by
  induction related with
  | nil => simp
  | @cons annotated entry ascribed resolved first _ ih =>
      obtain ⟨own, ascription⟩ := annotated
      obtain ⟨_, meant⟩ := entry
      obtain ⟨rfl, means⟩ := resolveNamed_eq_ok_iff.mp first
      simp only at means
      rw [List.lookup_cons, List.lookup_cons]
      by_cases same : name = own
      · subst same
        simp [means]
      · have differs : (name == own) = false := by simpa using same
        simpa only [differs] using ih

end Resolving

namespace View

/-- If there are no hints, an annotation means nothing. -/
theorem exists_unknownName {view : View} {refusal : Refusal}
    (unhinted : view.hints = .error refusal) : ∃ name, refusal = .unknownName name := by
  obtain ⟨_, _, _, -, -, failed⟩ := mapM_eq_error_iff.mp (map_eq_error_iff.mp unhinted)
  exact resolveNamed_eq_error failed

theorem ne_unknownName_of_signature {view : View} {refusal : Refusal}
    (unknown : view.signature = .error refusal) (name : String) : refusal ≠ .unknownName name := by
  induction view generalizing refusal with
  | plain callee =>
      rw [signature] at unknown
      split at unknown <;> cases unknown
      exact Refusal.noConfusion
  | applied inner arguments keywords shown ih =>
      simp only [signature] at unknown
      split at unknown
      · rename_i inside
        cases unknown
        exact ih inside
      · split at unknown <;> cases unknown
        exact Refusal.noConfusion

theorem get?_hints {view : View} {hints : Params Hint} (hinted : view.hints = .ok hints)
    (name : String) :
    (hints.get? name = none ↔ view.callee.annotations.get? name = none) ∧
      ∀ hint, hints.get? name = some hint ↔
        ∃ ascription, view.callee.annotations.get? name = some ascription ∧
          ascription.resolve view.callee.scope = .ok hint := by
  obtain ⟨resolved, read, rfl⟩ := map_eq_ok_iff.mp hinted
  rw [mapM_eq_ok_iff] at read
  have names : resolved.map Prod.fst = view.callee.annotations.entries.map Prod.fst :=
    map_eq_of_forall₂ read fun _ _ _ same => (resolveNamed_eq_ok_iff.mp same).1.symm
  have distinct : (resolved.map Prod.fst).Nodup := names ▸ view.callee.annotations.distinct
  rw [Params.get?, Params.entries_ofList distinct]
  exact lookup_of_resolved read name

end View

end UriRouting
