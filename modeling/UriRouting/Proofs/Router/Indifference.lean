import Mathlib
import UriRouting.Proofs.Route.Extension
import UriRouting.Proofs.Router.Dispatching

/-! # Parameters that a view does not look at

A view that does not take the match is given texts under the names of its signature and the records
of its models, and nothing else. A parameter with another name, added to the query of a URI, changes
neither which mount answers for the URI nor what comes of following it. For the records this is up to
the validator: it has to ignore what a model does not know.

A view that takes the match itself sees all parameters, so nothing is said about it.
-/

namespace UriRouting

/-- Whether a view has no use for a parameter of this name: it does not take the match, and neither
the view nor a model that it asks for has a place of that name. -/
structure View.Ignores (view : View) (name : String) : Prop where
  itself : ∀ left, view.signature = .ok left → matchName ∉ left.map Parameter.name
  parameter : ∀ left, view.signature = .ok left → name ∉ left.map Parameter.name
  field : ∀ left hints, view.signature = .ok left → view.hints = .ok hints →
    ∀ parameter ∈ left, ∀ model,
      hints.get? parameter.name = some (.record model) → name ∉ model.fields

theorem Hint.eq_record_of_model? {hint : Hint} {model : Model}
    (asked : hint.model? = some model) : hint = .record model := by
  cases hint with
  | record other => rw [Option.some.inj asked]
  | text | found | other => cases asked

theorem Match.allParams_extend (found : Match) (name text : String) :
    (found.extend name text).allParams = found.allParams.insert name text :=
  Params.overlay_insert found.routeParams found.queryParams name text

section

variable {validator : Validator} {params : Params String} {name : String}

theorem mapM_readModel_insert (ignores : validator.IgnoresUnknown) (text : String)
    {asked : List (String × Model)} (unknown : ∀ entry ∈ asked, name ∉ entry.2.fields) :
    asked.mapM (readModel validator (params.insert name text)) =
      asked.mapM (readModel validator params) := by
  induction asked with
  | nil => rfl
  | cons entry later ih =>
      rw [List.forall_mem_cons] at unknown
      have first : readModel validator (params.insert name text) entry =
          readModel validator params entry := by
        rw [readModel, readModel, ignores entry.2 params name text unknown.1]
      rw [List.mapM_cons, List.mapM_cons, first, ih unknown.2]

/-- What a plan without use for the match gives does not depend on a parameter that it does not look
at. -/
theorem Plan.keywords_extend (ignores : validator.IgnoresUnknown) {plan : Plan} (found : Match)
    (text : String) (itself : plan.wantsMatch = false) (absent : name ∉ plan.names)
    (unknown : ∀ entry ∈ plan.models, name ∉ entry.2.fields) :
    plan.keywords validator (found.extend name text) = plan.keywords validator found := by
  have texts : (plan.names.filterMap fun other =>
        ((found.allParams.insert name text).get? other).map fun value =>
          (other, Value.scalar (.text value))) =
      plan.names.filterMap fun other =>
        (found.allParams.get? other).map fun value => (other, Value.scalar (.text value)) := by
    apply List.filterMap_congr
    intro other member
    rw [Params.get?_insert_of_ne]
    rintro rfl
    exact absent member
  simp only [keywords, itself, Match.allParams_extend, texts, mapM_readModel_insert ignores text unknown,
    Bool.false_eq_true, if_false]

end

theorem View.Ignores.call_extend {view : View} {name : String} (ignores : view.Ignores name)
    {plan : Plan} (planned : view.plan = .ok plan) {validator : Validator}
    (unseen : validator.IgnoresUnknown) (found : Match) (text : String) :
    plan.call validator (found.extend name text) = plan.call validator found := by
  obtain ⟨left, hints, known, hinted, rfl⟩ := View.plan_eq_ok_iff.mp planned
  have same : (Plan.make view left hints).keywords validator (found.extend name text) =
      (Plan.make view left hints).keywords validator found := by
    apply Plan.keywords_extend unseen
    · simpa [Plan.make] using ignores.itself left known
    · intro member
      exact ignores.parameter left known (List.mem_filter.mp member).1
    · intro entry member
      obtain ⟨other, named, asked⟩ := List.mem_filterMap.mp member
      obtain ⟨model, wanted, rfl⟩ := Option.map_eq_some_iff.mp asked
      obtain ⟨parameter, position, rfl⟩ := List.mem_map.mp named
      obtain ⟨hint, annotated, asks⟩ := Option.bind_eq_some_iff.mp wanted
      rw [Hint.eq_record_of_model? asks] at annotated
      exact ignores.field left hints known hinted parameter position model annotated
  rw [Plan.call, Plan.call, same]

namespace Router

section Extending

variable {uri name raw text : String}

theorem firstMatch_extend (queried : '?' ∈ uri.toList → Route.queryOf uri ≠ [])
    (clean : Query.IsClean name) (whole : '&' ∉ raw.toList)
    (decoded : Percent.decode raw = .ok text) (place : Nat) (mounts : List Mount) :
    firstMatch (Route.extend uri name raw) place mounts =
      (firstMatch uri place mounts).map
        (Option.map fun (place, mount, found) => (place, mount, found.extend name text)) := by
  induction mounts generalizing place with
  | nil => rfl
  | cons candidate later ih =>
      rw [firstMatch, firstMatch, Route.matchUri_extend candidate.route queried clean whole decoded]
      cases candidate.route.matchUri uri with
      | error fault => rfl
      | ok found? =>
          cases found? with
          | none => exact ih (place + 1)
          | some found => rfl

/-- The longer URI leads to the same mount, with the parameter in its query, or to none or to the
same fault. -/
theorem resolve_extend (router : Router) (queried : '?' ∈ uri.toList → Route.queryOf uri ≠ [])
    (clean : Query.IsClean name) (whole : '&' ∉ raw.toList)
    (decoded : Percent.decode raw = .ok text) :
    router.resolve (Route.extend uri name raw) = (router.resolve uri).map
      (Option.map fun (place, mount, found) => (place, mount, found.extend name text)) := by
  obtain ⟨marked, query⟩ := Route.query_dropMark uri
  rw [resolve, Route.dropMark_extend]
  apply firstMatch_extend _ clean whole decoded
  rwa [marked, query]

end Extending

end Router

namespace Dispatcher

open Router (Operation Reply)

/-- In every state that a run leads to, a parameter that is added to a URI changes nothing but the
query of the match, in which its name has the added value. What comes of following the URI stays the
same if the view that it leads to has no use for the name. Where no view is found, the report names
the URI that was asked for. -/
theorem navigate_extend {strict : Bool} {fallback? : Option View} {start : Dispatcher}
    (made : make strict fallback? = .ok start) (operations : List Operation)
    {validator : Validator} (unseen : validator.IgnoresUnknown)
    {uri name raw text : String} (queried : '?' ∈ uri.toList → Route.queryOf uri ≠ [])
    (clean : Query.IsClean name) (whole : '&' ∉ raw.toList)
    (decoded : Percent.decode raw = .ok text) :
    let final := (start.run validator operations).1
    let reply operation := (final.perform validator operation).2
    let longer := Route.extend uri name raw
    (∃ result, reply (.resolve uri) = .resolved result ∧
      reply (.resolve longer) = .resolved (result.map (Option.map fun (place, mount, found) =>
        (place, mount, { found with queryParams := found.queryParams.insert name text })))) ∧
    ((∀ view found, final.router.LeadsTo uri view found → view.Ignores name) →
      reply (.navigate longer) = reply (.navigate uri) ∨
        reply (.navigate uri) = .navigated (.error (.notFound uri)) ∧
          reply (.navigate longer) = .navigated (.error (.notFound longer))) := by
  intro final reply longer
  obtain ⟨readyStart, -⟩ := ready_of_make made
  have ready : final.IsReady := (readyStart.run validator operations).1
  have resolved := final.router.resolve_extend queried clean whole decoded
  have followed : ∀ other,
      reply (.navigate other) = .navigated (final.router.navigate validator other) := by
    intro other
    exact congrArg Prod.snd (ready.perform_navigate validator other)
  refine ⟨⟨_, rfl, congrArg Reply.resolved resolved⟩, ?_⟩
  intro ignored
  rw [followed, followed]
  cases short : final.router.resolve uri with
  | error fault =>
      rw [short] at resolved
      left
      simp only [Router.navigate, short, longer, resolved, Except.map]
  | ok result =>
      rw [short] at resolved
      cases result with
      | none =>
          cases fallback : final.router.fallback? with
          | none =>
              right
              simp [Router.navigate, short, longer, resolved, Except.map, fallback]
          | some view =>
              left
              simp [Router.navigate, short, longer, resolved, Except.map, fallback]
      | some accepted =>
          obtain ⟨place, mount, found⟩ := accepted
          left
          have leads : final.router.LeadsTo uri mount.view found :=
            .inl ⟨place, mount, short, rfl⟩
          have longerLeads : final.router.LeadsTo longer mount.view (found.extend name text) :=
            .inl ⟨place, mount, resolved, rfl⟩
          obtain ⟨plan, planned, called⟩ := ready.navigate_of_leadsTo leads validator
          rw [called, Router.navigate_of_leadsTo longerLeads, Router.follow_of_plan planned,
            (ignored _ _ leads).call_extend planned unseen]

def pageView : View :=
  .plain (.function "show" {
      parameters := [⟨"q", .standard, none⟩, ⟨"page", .keywordOnly, none⟩]
      distinct := by decide
      ordered := by decide
    } (.ofList [("q", .direct .text), ("page", .direct (.record ⟨1, "Page", ["n"]⟩))]) .empty)

theorem ignores_pageView : pageView.Ignores "a" := by
  constructor
  · intro left known
    obtain rfl := Except.ok.inj known
    decide
  · intro left known
    obtain rfl := Except.ok.inj known
    decide
  · intro left hints known hinted parameter member model asked
    obtain rfl := Except.ok.inj known
    obtain rfl := Except.ok.inj hinted
    fin_cases member
    · cases asked
    · cases asked
      decide

def pageRun : List Operation := [.mount ⟨1, .fixed, "/{a}/{q}"⟩ pageView]

theorem navigate_extend_pageView :
    ∃ start, make false none = .ok start ∧
      ((start.run .demanding pageRun).1.perform .demanding (.resolve "#/x/y?n=1&a=%41")).2 =
          .resolved (.ok (some (0, ⟨⟨1, .fixed, "/{a}/{q}"⟩, pageView⟩,
            ⟨⟨1, .fixed, "/{a}/{q}"⟩, .ofList [("a", "x"), ("q", "y")],
              .ofList [("n", "1"), ("a", "A")]⟩))) ∧
        ((start.run .demanding pageRun).1.perform .demanding (.navigate "#/x/y?n=1&a=%41")).2 =
          ((start.run .demanding pageRun).1.perform .demanding (.navigate "#/x/y?n=1")).2 := by
  have made : make false none = .ok ⟨.empty false, []⟩ := rfl
  have longer : Route.extend "#/x/y?n=1" "a" "%41" = "#/x/y?n=1&a=%41" := by decide
  have queried : '?' ∈ "#/x/y?n=1".toList → Route.queryOf "#/x/y?n=1" ≠ [] := by decide
  have clean : Query.IsClean "a" := by decide
  have whole : '&' ∉ "%41".toList := by decide
  have decoded : Percent.decode "%41" = .ok "A" := by decide
  have short : (run .demanding ⟨.empty false, []⟩ pageRun).1.router.resolve "#/x/y?n=1" =
      .ok (some (0, ⟨⟨1, .fixed, "/{a}/{q}"⟩, pageView⟩,
        ⟨⟨1, .fixed, "/{a}/{q}"⟩, .ofList [("a", "x"), ("q", "y")], .ofList [("n", "1")]⟩)) := by
    decide
  obtain ⟨⟨result, first, second⟩, navigated⟩ :=
    navigate_extend made pageRun Validator.demanding_ignoresUnknown queried clean whole decoded
  rw [longer] at second navigated
  obtain rfl := Reply.resolved.inj (first.symm.trans (congrArg Reply.resolved short))
  have ignored : ∀ view found,
      (run .demanding ⟨.empty false, []⟩ pageRun).1.router.LeadsTo "#/x/y?n=1" view found →
        view.Ignores "a" := by
    intro view found leads
    rcases leads with ⟨place, mount, resolved, rfl⟩ | ⟨resolved, -⟩
    · cases short.symm.trans resolved
      exact ignores_pageView
    · cases short.symm.trans resolved
  refine ⟨_, made, second, ?_⟩
  rcases navigated ignored with same | ⟨missing, -⟩
  · exact same
  · cases missing

end Dispatcher

end UriRouting
