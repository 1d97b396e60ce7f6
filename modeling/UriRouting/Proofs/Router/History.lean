import Mathlib
import UriRouting.Router.Run

/-! # What the replies tell of a router

A router after a run is known from the operations and from the replies to them. The table holds what
the successful operations have mounted, in their order, and the fallback and strict mode are as the
last successful operation left them. What was rejected or only asked has left nothing.
-/

namespace UriRouting.Router

variable (validator : Validator)

def mounted? : Operation × Reply → Option Mount
  | (.mount route view, .changed) => some ⟨route, view⟩
  | _ => none

def assigned? : Operation × Reply → Option (Option View)
  | (.setFallback view?, .changed) => some view?
  | _ => none

def switched? : Operation × Reply → Option Bool
  | (.setStrict strict, .changed) => some strict
  | _ => none

def history (router : Router) (operations : List Operation) : List (Operation × Reply) :=
  operations.zip (router.run validator operations).2

theorem history_cons (router : Router) (operation : Operation) (later : List Operation) :
    router.history validator (operation :: later) =
      (operation, (router.perform validator operation).2) ::
        (router.perform validator operation).1.history validator later := rfl

theorem fst_run_cons (router : Router) (operation : Operation) (later : List Operation) :
    (router.run validator (operation :: later)).1 =
      ((router.perform validator operation).1.run validator later).1 := rfl

theorem mount_eq (router : Router) (route : Route) (view : View) :
    router.mount route view = (router.examine route view).map fun _ =>
      { router with mounts := router.mounts ++ [⟨route, view⟩] } := by
  unfold mount
  cases router.examine route view <;> rfl

theorem setFallback_some_eq (router : Router) (view : View) :
    router.setFallback (some view) = (router.examine .blank view).map fun _ =>
      { router with fallback? := some view } := by
  simp only [setFallback]
  cases router.examine .blank view <;> rfl

theorem eq_of_make {strict : Bool} {fallback? : Option View} {router : Router}
    (made : make strict fallback? = .ok router) : router = ⟨strict, [], fallback?⟩ := by
  cases fallback? with
  | none => exact (Except.ok.inj made).symm
  | some view =>
      rw [make, setFallback_some_eq] at made
      cases examined : (empty strict).examine .blank view with
      | error rejection =>
          rw [examined] at made
          cases made
      | ok accepted =>
          rw [examined] at made
          exact (Except.ok.inj made).symm

/-- The router that an operation leaves is the one before it, with what the reply tells. -/
theorem perform_fst_eq (router : Router) (operation : Operation) :
    (router.perform validator operation).1 =
      { strict := (switched? (operation, (router.perform validator operation).2)).getD router.strict
        mounts := router.mounts ++ (mounted? (operation, (router.perform validator operation).2)).toList
        fallback? :=
          (assigned? (operation, (router.perform validator operation).2)).getD router.fallback? } := by
  have same : router = ⟨router.strict, router.mounts ++ [], router.fallback?⟩ := by
    rw [List.append_nil]
  cases operation with
  | mount route view =>
      simp only [perform, mount_eq]
      cases router.examine route view with
      | error rejection => exact same
      | ok accepted => rfl
  | setFallback view? =>
      cases view? with
      | none => exact congrArg (Router.mk router.strict · none) (List.append_nil _).symm
      | some view =>
          simp only [perform, setFallback_some_eq]
          cases router.examine .blank view with
          | error rejection => exact same
          | ok accepted =>
              exact congrArg (Router.mk router.strict · (some view)) (List.append_nil _).symm
  | setStrict strict =>
      exact congrArg (Router.mk strict · router.fallback?) (List.append_nil _).symm
  | resolve | navigate => exact same

theorem mounts_run (router : Router) (operations : List Operation) :
    (router.run validator operations).1.mounts =
      router.mounts ++ (router.history validator operations).filterMap mounted? := by
  induction operations generalizing router with
  | nil => exact (List.append_nil _).symm
  | cons operation later ih =>
      have step := congrArg Router.mounts (perform_fst_eq validator router operation)
      rw [fst_run_cons, ih, step, history_cons, List.filterMap_cons]
      cases mounted? (operation, (router.perform validator operation).2) with
      | none => simp
      | some mount => simp

/-- What each reply tells last about a part of the router is what that part is after a run. -/
theorem run_eq_getLastD {α : Type} {part : Router → α} {told? : Operation × Reply → Option α}
    (step : ∀ router operation, part (router.perform validator operation).1 =
      (told? (operation, (router.perform validator operation).2)).getD (part router))
    (router : Router) (operations : List Operation) :
    part (router.run validator operations).1 =
      ((router.history validator operations).filterMap told?).getLastD (part router) := by
  induction operations generalizing router with
  | nil => rfl
  | cons operation later ih =>
      rw [fst_run_cons, ih, step, history_cons, List.filterMap_cons]
      cases told? (operation, (router.perform validator operation).2) with
      | none => rfl
      | some value => rw [List.getLastD_cons, Option.getD_some]

theorem fallback?_run (router : Router) (operations : List Operation) :
    (router.run validator operations).1.fallback? =
      ((router.history validator operations).filterMap assigned?).getLastD router.fallback? :=
  run_eq_getLastD validator (fun before operation =>
    congrArg Router.fallback? (perform_fst_eq validator before operation)) router operations

theorem strict_run (router : Router) (operations : List Operation) :
    (router.run validator operations).1.strict =
      ((router.history validator operations).filterMap switched?).getLastD router.strict :=
  run_eq_getLastD validator (fun before operation =>
    congrArg Router.strict (perform_fst_eq validator before operation)) router operations

end UriRouting.Router
