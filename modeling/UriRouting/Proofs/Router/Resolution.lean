import Mathlib
import UriRouting.Proofs.Router.Dispatching
import UriRouting.Proofs.View.Passing

/-! # Which mount answers

The path of a URI has the shape of a route's pattern or it has not, and this does not depend on what
can be decoded. The first mount of the table whose pattern has the shape answers for the URI, be it
with a match or with a fault. Mounts after it do not matter, so what is mounted later leaves its
answer as it is.
-/

namespace UriRouting

def Route.Accepts (route : Route) (uri : String) : Prop :=
  ∃ captures, route.template.IsDivision captures (pathOf uri)

namespace Route

theorem matchUri_ne_none_iff {route : Route} {uri : String} :
    route.matchUri uri ≠ .ok none ↔ route.Accepts uri := by
  rw [ne_eq, matchUri_eq_none_iff, not_not]
  rfl

theorem dropMark_mark_append (uri : String) : dropMark ("#" ++ uri) = uri := by
  have marked : "#" ++ uri = String.ofList (fragmentMark :: uri.toList) := by
    rw [← String.toList_inj]
    simp [fragmentMark]
  rw [marked, dropMark_ofList, String.ofList_toList]

end Route

namespace Router

/-- Whether a mount is the first of a table to have the shape of a URI. -/
structure IsFirst (mounts : List Mount) (uri : String) (place : Nat) (mount : Mount) : Prop where
  placed : mounts[place]? = some mount
  accepts : mount.route.Accepts uri
  least : ∀ earlier < place, ∀ other, mounts[earlier]? = some other → ¬ other.route.Accepts uri

section Searching

variable {uri : String} {mounts : List Mount}

theorem firstMatch_of_not_accepts (place : Nat)
    (refused : ∀ mount ∈ mounts, ¬ mount.route.Accepts uri) :
    firstMatch uri place mounts = .ok none := by
  induction mounts generalizing place with
  | nil => rfl
  | cons candidate later ih =>
      rw [List.forall_mem_cons] at refused
      have missed : candidate.route.matchUri uri = .ok none := by
        by_contra found
        exact refused.1 (Route.matchUri_ne_none_iff.mp found)
      rw [firstMatch, missed]
      exact ih (place + 1) refused.2

/-- The first mount that has the shape gives the answer, with its place. -/
theorem IsFirst.firstMatch_eq {place : Nat} {mount : Mount}
    (first : IsFirst mounts uri place mount) (start : Nat) :
    firstMatch uri start mounts = (mount.route.matchUri uri).map
      (Option.map fun found => (start + place, mount, found)) := by
  induction mounts generalizing place start with
  | nil => cases first.placed
  | cons candidate later ih =>
      rw [firstMatch]
      cases place with
      | zero =>
          obtain rfl := Option.some.inj first.placed
          have shaped := Route.matchUri_ne_none_iff.mpr first.accepts
          cases matched : candidate.route.matchUri uri with
          | error fault => rfl
          | ok found? =>
              cases found? with
              | none => exact absurd matched shaped
              | some found => rfl
      | succ place =>
          have missed : candidate.route.matchUri uri = .ok none := by
            by_contra found
            exact first.least 0 (Nat.succ_pos place) candidate rfl
              (Route.matchUri_ne_none_iff.mp found)
          have rest : IsFirst later uri place mount :=
            ⟨first.placed, first.accepts, fun earlier before other known =>
              first.least (earlier + 1) (Nat.succ_lt_succ before) other known⟩
          have shift : start + 1 + place = start + (place + 1) := by omega
          rw [missed, ← shift]
          exact ih rest (start + 1)

theorem IsFirst.append {place : Nat} {mount : Mount} (first : IsFirst mounts uri place mount)
    (more : List Mount) : IsFirst (mounts ++ more) uri place mount := by
  have inside : place < mounts.length := (List.getElem?_eq_some_iff.mp first.placed).1
  constructor
  · rw [List.getElem?_append_left inside]
    exact first.placed
  · exact first.accepts
  · intro earlier before other known
    rw [List.getElem?_append_left (before.trans inside)] at known
    exact first.least earlier before other known

end Searching

theorem resolve_of_isFirst {router : Router} {uri : String} {place : Nat} {mount : Mount}
    (first : IsFirst router.mounts (Route.dropMark uri) place mount) :
    router.resolve uri = (mount.route.matchUri (Route.dropMark uri)).map
      (Option.map fun found => (place, mount, found)) := by
  have answer := first.firstMatch_eq 0
  rwa [Nat.zero_add] at answer

/-- A run after which a mount is still the first gives the same answer. -/
theorem resolve_run {router : Router} {uri : String} {place : Nat} {mount : Mount}
    (first : IsFirst router.mounts (Route.dropMark uri) place mount)
    (validator : Validator) (later : List Operation) :
    (router.run validator later).1.resolve uri = router.resolve uri := by
  have still : IsFirst (router.run validator later).1.mounts (Route.dropMark uri) place mount := by
    rw [mounts_run]
    exact first.append _
  rw [resolve_of_isFirst still, resolve_of_isFirst first]

end Router

namespace Dispatcher

open Router (Operation Reply IsFirst)

/-- Whether a reply is what comes of calling a view with a match, by the plan for the view. -/
def Calls (validator : Validator) (view : View) (found : Match) (reply : Reply) : Prop :=
  ∃ plan left hints, view.plan = .ok plan ∧ view.signature = .ok left ∧ view.hints = .ok hints ∧
    reply = .navigated ((plan.call validator found).mapError .failed) ∧
    view.Answers validator left hints found (plan.call validator found)

theorem IsReady.calls_of_leadsTo {dispatcher : Dispatcher} (ready : dispatcher.IsReady)
    {uri : String} {view : View} {found : Match} (leads : dispatcher.router.LeadsTo uri view found)
    (validator : Validator) :
    Calls validator view found (dispatcher.perform validator (.navigate uri)).2 := by
  obtain ⟨plan, planned, called⟩ := ready.navigate_of_leadsTo leads validator
  obtain ⟨left, hints, known, hinted, rfl⟩ := View.plan_eq_ok_iff.mp planned
  refine ⟨_, left, hints, planned, known, hinted, ?_, View.answers_call left hints validator found⟩
  rw [ready.perform_navigate, called]

/-- In every state that a run leads to, the first mount whose pattern has the shape of a URI answers
for it with a call of its view, and if there is none, the fallback is called or the URI is not found.
A fault of the first mount is the answer as well. What is done to the router later leaves the answer
of a first mount as it is, and so does the mark in front of a URI. -/
theorem first_mount_answers {strict : Bool} {fallback? : Option View} {start : Dispatcher}
    (made : make strict fallback? = .ok start) (validator : Validator)
    (operations : List Operation) :
    let final := (start.run validator operations).1
    let reply operation := (final.perform validator operation).2
    (∀ uri, (∀ mount ∈ final.router.mounts, ¬ mount.route.Accepts (Route.dropMark uri)) →
      reply (.resolve uri) = .resolved (.ok none) ∧
        (final.router.fallback? = none →
          reply (.navigate uri) = .navigated (.error (.notFound uri))) ∧
        ∀ view, final.router.fallback? = some view →
          Calls validator view .blank (reply (.navigate uri))) ∧
    (∀ uri place mount, IsFirst final.router.mounts (Route.dropMark uri) place mount →
      mount.route.matchUri (Route.dropMark uri) ≠ .ok none ∧
        (∀ found, mount.route.matchUri (Route.dropMark uri) = .ok (some found) →
          reply (.resolve uri) = .resolved (.ok (some (place, mount, found))) ∧
            Calls validator mount.view found (reply (.navigate uri))) ∧
        (∀ fault, mount.route.matchUri (Route.dropMark uri) = .error fault →
          reply (.resolve uri) = .resolved (.error fault) ∧
            reply (.navigate uri) = .navigated (.error (.undecodable fault))) ∧
        ∀ later, ((final.run validator later).1.perform validator (.resolve uri)).2 =
          reply (.resolve uri)) ∧
    ∀ uri, uri.toList.head? ≠ some Route.fragmentMark →
      reply (.resolve ("#" ++ uri)) = reply (.resolve uri) := by
  intro final reply
  obtain ⟨readyStart, -⟩ := ready_of_make made
  have ready : final.IsReady := (readyStart.run validator operations).1
  have asked : ∀ uri, reply (.resolve uri) = .resolved (final.router.resolve uri) := fun _ => rfl
  have followed : ∀ uri,
      reply (.navigate uri) = .navigated (final.router.navigate validator uri) := by
    intro uri
    exact congrArg Prod.snd (ready.perform_navigate validator uri)
  refine ⟨?_, ?_, ?_⟩
  · intro uri refused
    have missed : final.router.resolve uri = .ok none :=
      Router.firstMatch_of_not_accepts 0 refused
    refine ⟨by rw [asked, missed], ?_, ?_⟩
    · intro fallback
      rw [followed, Router.navigate, missed, fallback]
    · intro view fallback
      exact ready.calls_of_leadsTo (.inr ⟨missed, fallback, rfl⟩) validator
  · intro uri place mount first
    have answer := Router.resolve_of_isFirst first
    refine ⟨Route.matchUri_ne_none_iff.mpr first.accepts, ?_, ?_, ?_⟩
    · intro found matched
      have resolved : final.router.resolve uri = .ok (some (place, mount, found)) := by
        rw [answer, matched]
        rfl
      refine ⟨by rw [asked, resolved], ?_⟩
      exact ready.calls_of_leadsTo (.inl ⟨place, mount, resolved, rfl⟩) validator
    · intro fault failed
      have faulty : final.router.resolve uri = .error fault := by
        rw [answer, failed]
        rfl
      exact ⟨by rw [asked, faulty], by rw [followed, Router.navigate, faulty]⟩
    · intro later
      have same := Router.resolve_run first validator later
      rw [(ready.run validator later).2] at same
      exact congrArg Reply.resolved same
  · intro uri unmarked
    rw [asked, asked, Router.resolve, Router.resolve, Route.dropMark_mark_append,
      Route.dropMark_of_head?_ne unmarked]

/-- A run that mounts three routes, two of which have the shape of one URI. What the first of them
captures cannot be decoded, and the second captures nothing. -/
def contestedRun : List Operation :=
  [.mount ⟨1, .fixed, "/b/{q}"⟩ (sampleView none), .mount ⟨2, .fixed, "/a/{q}"⟩ (sampleView none),
    .mount ⟨3, .fixed, "/a/%FF"⟩ (sampleView none)]

theorem first_mount_answers_contestedRun :
    ∃ start, make false none = .ok start ∧
      let final := (start.run .demanding contestedRun).1
      let fault : Utf8.Fault := ⟨0, 0, 0xFF, .invalidStart⟩
      IsFirst final.router.mounts "/a/%FF" 1 ⟨⟨2, .fixed, "/a/{q}"⟩, sampleView none⟩ ∧
        (final.perform .demanding (.resolve "#/a/%FF")).2 = .resolved (.error fault) ∧
        (final.perform .demanding (.navigate "#/a/%FF")).2 = .navigated (.error (.undecodable fault)) ∧
        (∀ later, ((final.run .demanding later).1.perform .demanding (.resolve "#/a/%FF")).2 =
          (final.perform .demanding (.resolve "#/a/%FF")).2) ∧
        (final.perform .demanding (.navigate "#/c")).2 = .navigated (.error (.notFound "#/c")) ∧
        (final.perform .demanding (.resolve "#/a/x")).2 = (final.perform .demanding (.resolve "/a/x")).2 := by
  have made : make false none = .ok ⟨.empty false, []⟩ := rfl
  obtain ⟨missing, answers, marked⟩ := first_mount_answers made .demanding contestedRun
  have table : (run .demanding ⟨.empty false, []⟩ contestedRun).1.router.mounts =
      [⟨⟨1, .fixed, "/b/{q}"⟩, sampleView none⟩, ⟨⟨2, .fixed, "/a/{q}"⟩, sampleView none⟩,
        ⟨⟨3, .fixed, "/a/%FF"⟩, sampleView none⟩] := by decide
  have first : IsFirst (run .demanding ⟨.empty false, []⟩ contestedRun).1.router.mounts "/a/%FF" 1
      ⟨⟨2, .fixed, "/a/{q}"⟩, sampleView none⟩ := by
    rw [table]
    refine ⟨rfl, Route.matchUri_ne_none_iff.mp (by decide), fun earlier before other known => ?_⟩
    obtain rfl : earlier = 0 := by omega
    obtain rfl := Option.some.inj known
    rw [← Route.matchUri_ne_none_iff]
    decide
  obtain ⟨-, -, faulty, stable⟩ := answers "#/a/%FF" 1 _ first
  obtain ⟨resolved, navigated⟩ := faulty ⟨0, 0, 0xFF, .invalidStart⟩ (by decide)
  have absent : ∀ mount ∈ (run .demanding ⟨.empty false, []⟩ contestedRun).1.router.mounts,
      ¬ mount.route.Accepts (Route.dropMark "#/c") := by
    simp only [table, List.forall_mem_cons, ← Route.matchUri_ne_none_iff]
    decide
  exact ⟨_, made, first, resolved, navigated, stable, (missing "#/c" absent).2.1 rfl,
    marked "/a/x" (by decide)⟩

end Dispatcher

end UriRouting
