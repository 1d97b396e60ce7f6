import Mathlib
import UriRouting.Match
import UriRouting.Proofs.Query.Reading
import UriRouting.Proofs.Template.Cut
import UriRouting.Proofs.Template.Division

/-! # What a route makes of a URI

The path of a URI is cut off at the first question mark, and a route looks at the path alone to see
whether it is meant. Only then are texts decoded, the captures before the values of the query, and
the first one that cannot be decoded ends the attempt.
-/

namespace UriRouting

theorem Text.cut_eq (sep : Char) (text : List Char) :
    Text.cut sep text = (text.takeWhile (· != sep), (text.dropWhile (· != sep)).tail?) := by
  induction text with
  | nil => rfl
  | cons c rest ih =>
      by_cases same : c = sep
      · simp [Text.cut, same]
      · simp [Text.cut, same, ih]

namespace Route

/-- The path of a URI: what stands before the first question mark. -/
def pathOf (uri : String) : List Char :=
  uri.toList.takeWhile (· != '?')

/-- The query of a URI: what stands after the first question mark. -/
def queryOf (uri : String) : List Char :=
  (uri.toList.dropWhile (· != '?')).tail

theorem cut_queryMark (uri : String) :
    (Text.cut '?' uri.toList).1 = pathOf uri ∧
      (Text.cut '?' uri.toList).2.getD [] = queryOf uri := by
  rw [Text.cut_eq]
  refine ⟨rfl, ?_⟩
  unfold queryOf
  cases uri.toList.dropWhile (· != '?') <;> rfl

theorem matchUri_of_capture_none {route : Route} {uri : String}
    (missing : route.template.capture (pathOf uri) = none) : route.matchUri uri = .ok none := by
  simp only [matchUri, (cut_queryMark uri).1, missing]

theorem matchUri_of_capture_some {route : Route} {uri : String} {captures : List (List Char)}
    (found : route.template.capture (pathOf uri) = some captures) :
    route.matchUri uri = do
      let values ← captures.mapM decodeCapture
      let queryParams ← Query.parseChars (queryOf uri)
      return some ⟨route, .ofList (route.placeholders.zip values), queryParams⟩ := by
  simp only [matchUri, (cut_queryMark uri).1, (cut_queryMark uri).2, found]

theorem decodeCapture_eq_ok_iff {capture : List Char} {text : String} :
    decodeCapture capture = .ok text ↔ Percent.decodeChars capture = .ok text.toList :=
  map_ofList_eq_ok_iff

theorem firstFailure_decodeCapture_iff {captures : List (List Char)} {fault : Utf8.Fault} :
    FirstFailure decodeCapture captures fault ↔
      FirstFailure Percent.decodeChars captures fault := by
  simp only [FirstFailure, decodeCapture, map_eq_error_iff, exists_map_eq_ok_iff]

theorem forall_decodeCapture_iff {captures : List (List Char)} :
    (∀ capture ∈ captures, ∃ text, decodeCapture capture = .ok text) ↔
      ∀ capture ∈ captures, ∃ text, Percent.decodeChars capture = .ok text := by
  simp only [decodeCapture, exists_map_eq_ok_iff]

theorem matchUri_eq_none_iff {route : Route} {uri : String} :
    route.matchUri uri = .ok none ↔
      ¬ ∃ captures, route.template.IsDivision captures (pathOf uri) := by
  rw [← Template.capture_eq_none_iff]
  cases search : route.template.capture (pathOf uri) with
  | none => exact iff_of_true (matchUri_of_capture_none search) rfl
  | some captures =>
      rw [matchUri_of_capture_some search]
      cases captures.mapM decodeCapture with
      | error fault => simp [bind, Except.bind]
      | ok values =>
          cases Query.parseChars (queryOf uri) <;> simp [bind, Except.bind, pure, Except.pure]

theorem matchUri_eq_error_iff {route : Route} {uri : String} {fault : Utf8.Fault} :
    route.matchUri uri = .error fault ↔
      ∃ captures, route.template.IsGreatestDivision captures (pathOf uri) ∧
        FirstFailure Percent.decodeChars (captures ++ Query.values (queryOf uri)) fault := by
  simp only [← Template.capture_eq_some_iff]
  cases search : route.template.capture (pathOf uri) with
  | none => simp [matchUri_of_capture_none search]
  | some captures =>
      simp only [Option.some.injEq, exists_eq_left', matchUri_of_capture_some search]
      rw [firstFailure_append_iff, ← Query.parseChars_eq_error_iff,
        ← firstFailure_decodeCapture_iff, ← mapM_eq_error_iff, ← forall_decodeCapture_iff,
        ← exists_mapM_eq_ok_iff, bind_eq_error_iff]
      simp [bind_eq_error_iff, pure, Except.pure]

/-- What a match holds are the texts of the greatest division, by the names of the placeholders. -/
theorem matchUri_eq_some_iff {route : Route} {uri : String} {found : Match} :
    route.matchUri uri = .ok (some found) ↔
      ∃ captures texts, route.template.IsGreatestDivision captures (pathOf uri) ∧
        List.Forall₂ (fun capture text => Percent.decodeChars capture = .ok text.toList)
          captures texts ∧
        Query.parseChars (queryOf uri) = .ok found.queryParams ∧
        found.route = route ∧ found.routeParams.IsMapOf (route.placeholders.zip texts) := by
  simp only [← Template.capture_eq_some_iff, ← decodeCapture_eq_ok_iff, ← mapM_eq_ok_iff,
    Params.isMapOf_iff]
  cases search : route.template.capture (pathOf uri) with
  | none => simp [matchUri_of_capture_none search]
  | some captures =>
      obtain ⟨foundRoute, routeParams, queryParams⟩ := found
      rw [matchUri_of_capture_some search]
      simp only [bind_eq_ok_iff, pure, Except.pure, Except.ok.injEq, Option.some.injEq,
        Match.mk.injEq]
      constructor
      · rintro ⟨texts, decoded, params, read, rfl, rfl, rfl⟩
        exact ⟨captures, texts, rfl, decoded, read, rfl, rfl⟩
      · rintro ⟨_, texts, rfl, decoded, read, rfl, rfl⟩
        exact ⟨texts, decoded, queryParams, read, rfl, rfl, rfl⟩

/-- Matching finds a division of the path whenever there is one, the greatest one, for every pattern
there is. What it gives, and how it fails, is said by the texts of this division and of the query. -/
theorem matchUri_sound_complete_greedy (route : Route) :
    route.template.render = route.pattern.toList ∧ route.template.IsCut ∧
      ∀ uri,
        (route.matchUri uri = .ok none ↔
          ¬ ∃ captures, route.template.IsDivision captures (pathOf uri)) ∧
        ((∃ fault, route.matchUri uri = .error fault) ↔
          ∃ captures, route.template.IsGreatestDivision captures (pathOf uri) ∧
            ∃ text ∈ captures ++ Query.values (queryOf uri),
              ∃ fault, Percent.decodeChars text = .error fault) ∧
        (∀ fault, route.matchUri uri = .error fault ↔
          ∃ captures, route.template.IsGreatestDivision captures (pathOf uri) ∧
            FirstFailure Percent.decodeChars (captures ++ Query.values (queryOf uri)) fault) ∧
        ∀ found, route.matchUri uri = .ok (some found) ↔
          ∃ captures texts, route.template.IsGreatestDivision captures (pathOf uri) ∧
            List.Forall₂ (fun capture text => Percent.decodeChars capture = .ok text.toList)
              captures texts ∧
            Query.parseChars (queryOf uri) = .ok found.queryParams ∧
            found.route = route ∧
            found.routeParams.IsMapOf (route.placeholders.zip texts) := by
  refine ⟨Template.render_ofChars _, Template.isCut_ofChars _, fun uri => ?_⟩
  refine ⟨matchUri_eq_none_iff, ?_, fun _ => matchUri_eq_error_iff, fun _ => matchUri_eq_some_iff⟩
  simp only [matchUri_eq_error_iff, ← exists_firstFailure_iff]
  rw [exists_comm]
  simp only [exists_and_left]

end Route

end UriRouting
