import Mathlib
import UriRouting.Router
import UriRouting.Proofs.Route.RoundTrip

/-! # Where a URI leads

Following a URI leads to a view and a match, to the report that nothing was found, or to a fault of
the URI. What a router says to a URI is what the view comes to.
-/

namespace UriRouting.Router

theorem follow_of_plan {view : View} {plan : Plan} (planned : view.plan = .ok plan)
    (validator : Validator) (found : Match) :
    follow validator view found = (plan.call validator found).mapError .failed := by
  simp only [follow, planned]
  cases plan.call validator found <;> rfl

theorem mem_of_firstMatch {uri : String} {place found : Nat} {mounts : List Mount} {mount : Mount}
    {result : Match} (first : firstMatch uri place mounts = .ok (some (found, mount, result))) :
    mount ∈ mounts ∧ mount.route.matchUri uri = .ok (some result) := by
  induction mounts generalizing place with
  | nil => cases first
  | cons candidate later ih =>
      rw [firstMatch] at first
      split at first
      · cases first
      · rename_i matched
        cases first
        exact ⟨List.mem_cons_self, matched⟩
      · obtain ⟨member, matched⟩ := ih first
        exact ⟨List.mem_cons_of_mem _ member, matched⟩

/-- Whether following a URI leads to a view, and with which match. -/
def LeadsTo (router : Router) (uri : String) (view : View) (found : Match) : Prop :=
  (∃ place mount, router.resolve uri = .ok (some (place, mount, found)) ∧ mount.view = view) ∨
    router.resolve uri = .ok none ∧ router.fallback? = some view ∧ found = .blank

variable {router : Router} {uri : String} {view : View} {found : Match}

theorem navigate_of_leadsTo (leads : router.LeadsTo uri view found) (validator : Validator) :
    router.navigate validator uri = follow validator view found := by
  rcases leads with ⟨place, mount, resolved, rfl⟩ | ⟨resolved, fallback, rfl⟩
  · simp only [navigate, resolved]
  · simp only [navigate, resolved, fallback]

/-- A URI that leads to no view is faulty or is not found. -/
theorem leadsTo_or_error (router : Router) (validator : Validator) (uri : String) :
    (∃ view found, router.LeadsTo uri view found) ∨
      router.navigate validator uri = .error (.notFound uri) ∨
        ∃ fault, router.navigate validator uri = .error (.undecodable fault) := by
  cases resolved : router.resolve uri with
  | error fault => exact .inr (.inr ⟨fault, by simp only [navigate, resolved]⟩)
  | ok result =>
      cases result with
      | some accepted =>
          obtain ⟨place, mount, found⟩ := accepted
          exact .inl ⟨mount.view, found, .inl ⟨place, mount, resolved, rfl⟩⟩
      | none =>
          cases fallback : router.fallback? with
          | some view => exact .inl ⟨view, .blank, .inr ⟨resolved, fallback, rfl⟩⟩
          | none => exact .inr (.inl (by simp only [navigate, resolved, fallback]))

/-- Whether a router leads to a view, from a route or when no route accepts a URI. -/
def Uses (router : Router) (view : View) : Prop :=
  (∃ mount ∈ router.mounts, mount.view = view) ∨ router.fallback? = some view

theorem LeadsTo.uses (leads : router.LeadsTo uri view found) : router.Uses view := by
  rcases leads with ⟨place, mount, resolved, same⟩ | ⟨-, fallback, -⟩
  · exact .inl ⟨mount, (mem_of_firstMatch resolved).1, same⟩
  · exact .inr fallback

theorem Uses.of_mount {route : Route} {other : View}
    (uses : Router.Uses { router with mounts := router.mounts ++ [⟨route, view⟩] } other) :
    other = view ∨ router.Uses other := by
  rcases uses with ⟨mount, member, rfl⟩ | fallback
  · rcases List.mem_append.mp member with old | new
    · exact .inr (.inl ⟨mount, old, rfl⟩)
    · exact .inl (congrArg Mount.view (List.mem_singleton.mp new))
  · exact .inr (.inr fallback)

theorem Uses.of_fallback {other : View}
    (uses : Router.Uses { router with fallback? := some view } other) :
    other = view ∨ router.Uses other := by
  rcases uses with mounted | fallback
  · exact .inr (.inl mounted)
  · exact .inl (Option.some.inj fallback).symm

end UriRouting.Router
