import Mathlib
import UriRouting.Proofs.Route.RoundTrip
import UriRouting.Proofs.Template.Segments

/-! # A route and its segments

Cut at the slashes in its literals, the pattern of a route falls into patterns of smaller routes. A URI
without a query matches the route exactly if it has as many pieces between slashes as there are
smaller routes, and each of them matches its own piece. The captures are those of the smaller routes,
one after the other.

Whether the captures can be decoded is another question, and so is the query.
-/

namespace UriRouting.Route

/-- The patterns between the slashes in the literals of a route, as routes. -/
def segments (route : Route) : List Route :=
  route.template.segments.map fun segment => ofPattern route.serial (String.ofList segment.render)

section Splitting

variable (route : Route)

theorem map_template_segments : route.segments.map template = route.template.segments := by
  rw [segments, List.map_map]
  conv_rhs => rw [← List.map_id route.template.segments]
  apply List.map_congr_left
  intro segment member
  have cut := Template.isCut_segments (Template.isCut_ofChars route.pattern.toList) segment member
  simp only [Function.comp_apply, template, ofPattern, String.toList_ofList, id]
  exact Template.ofChars_render cut

theorem map_pattern_segments :
    route.segments.map (·.pattern.toList) = route.template.segments.map Template.render := by
  simp [segments, ofPattern, Function.comp_def]

theorem flatMap_placeholders_segments :
    route.segments.flatMap placeholders = route.placeholders := by
  have named : ∀ other : Route, other.placeholders = other.template.names.map String.ofList :=
    fun _ => rfl
  have names := Template.flatMap_names_segments route.template
  rw [← map_template_segments, List.flatMap_map] at names
  rw [named, ← names, List.map_flatMap]
  rfl

end Splitting

theorem matchUri_ofList_ne_none_iff (route : Route) {path : List Char} (unmarked : '?' ∉ path) :
    route.matchUri (String.ofList path) ≠ .ok none ↔
      ∃ captures, route.template.capture path = some captures := by
  rw [ne_eq, matchUri_eq_none_iff, (pathOf_ofList unmarked).1, ← Template.capture_eq_none_iff]
  exact Option.ne_none_iff_exists'

/-- Segments match pieces of a path as routes exactly if they match them as templates. -/
theorem forall₂_matchUri_iff {routes : List Route} {pieces : List (List Char)}
    (unmarked : ∀ piece ∈ pieces, '?' ∉ piece) :
    List.Forall₂ (fun segment piece => segment.matchUri piece ≠ .ok none) routes
        (pieces.map String.ofList) ↔
      List.Forall₂ (fun segment piece => ∃ captures, segment.capture piece = some captures)
        (routes.map template) pieces := by
  rw [List.forall₂_map_left_iff, List.forall₂_map_right_iff]
  induction pieces generalizing routes with
  | nil => simp
  | cons piece pieces ih =>
      rw [List.forall_mem_cons] at unmarked
      cases routes with
      | nil => simp
      | cons route routes =>
          rw [List.forall₂_cons, List.forall₂_cons, ih unmarked.2,
            matchUri_ofList_ne_none_iff route unmarked.1]

/-- A route is matched segment by segment: its segments hold no slash in a literal and are the pattern
with slashes between them, a path matches the route exactly if its pieces match the segments, one each,
and the captures are those of the segments. So the path has the slashes of the literals and no other. -/
theorem matchUri_segmentwise (route : Route) :
    (Text.join '/' (route.segments.map (·.pattern.toList)) = route.pattern.toList ∧
      (∀ segment ∈ route.segments, ∀ literal ∈ segment.template.literals, '/' ∉ literal) ∧
      route.segments.flatMap placeholders = route.placeholders) ∧
    ∀ uri, '?' ∉ uri.toList →
      let pieces := Text.pieces '/' uri.toList
      let captures? := Template.captureEach (route.segments.map template) pieces
      (route.matchUri uri ≠ .ok none ↔
        List.Forall₂ (fun segment piece => segment.matchUri piece ≠ .ok none)
          route.segments (pieces.map String.ofList)) ∧
      route.template.capture uri.toList = captures? ∧
      (∀ captures, captures? = some captures → route.matchUri uri = do
        let values ← captures.mapM decodeCapture
        return some ⟨route, .ofList (route.placeholders.zip values), .empty⟩) ∧
      (route.matchUri uri ≠ .ok none →
        uri.toList.count '/' = route.template.literals.flatten.count '/') := by
  refine ⟨⟨?_, ?_, flatMap_placeholders_segments route⟩, ?_⟩
  · rw [map_pattern_segments, Template.join_render_segments]
    exact Template.render_ofChars _
  · have slashless := Template.slash_not_mem_segments route.template
    rwa [← map_template_segments, List.forall_mem_map] at slashless
  intro uri unmarked pieces captures?
  obtain ⟨path, query⟩ := toList_of_not_mem unmarked
  have whole : route.template.capture uri.toList = captures? := by
    rw [Template.capture_eq_captureEach, ← map_template_segments]
  have shaped : route.matchUri uri ≠ .ok none ↔ ∃ captures, captures? = some captures := by
    have matched := route.matchUri_ofList_ne_none_iff unmarked
    rwa [String.ofList_toList, whole] at matched
  refine ⟨?_, whole, ?_, ?_⟩
  · rw [shaped, Template.exists_captureEach_iff, forall₂_matchUri_iff]
    intro piece member inside
    exact unmarked ((Text.infix_of_mem_pieces member).subset inside)
  · intro captures found
    have search : route.template.capture (pathOf uri) = some captures := by
      rw [← path, whole, found]
    rw [matchUri_of_capture_some search, query]
    rfl
  · rw [shaped, Template.exists_captureEach_iff]
    intro matched
    have count := matched.length_eq
    rw [map_template_segments, Template.length_segments, Text.length_pieces] at count
    omega

/-- Two placeholders share a segment here, and the name of another one holds a slash. -/
def slashed : Route := .ofPattern 1 "/a{x}-{y}/{z/w}"

theorem matchUri_segmentwise_slashed :
    slashed.segments.map pattern = ["", "a{x}-{y}", "{z/w}"] ∧
      '?' ∉ "/ab-c-d/e%20".toList ∧
      slashed.matchUri "/ab-c-d/e%20" = .ok (some
        ⟨slashed, .ofList [("x", "b-c"), ("y", "d"), ("z/w", "e ")], .empty⟩) ∧
      '?' ∉ "/ab-c-d/e%20/".toList ∧ slashed.matchUri "/ab-c-d/e%20/" = .ok none := by
  have unmarked : '?' ∉ "/ab-c-d/e%20".toList := by decide
  have alsoUnmarked : '?' ∉ "/ab-c-d/e%20/".toList := by decide
  obtain ⟨-, -, decoded, -⟩ := (matchUri_segmentwise slashed).2 _ unmarked
  obtain ⟨-, -, -, counted⟩ := (matchUri_segmentwise slashed).2 _ alsoUnmarked
  refine ⟨by decide, unmarked, ?_, alsoUnmarked, ?_⟩
  · exact decoded ["b-c".toList, "d".toList, "e%20".toList] (by decide)
  · by_contra matched
    exact absurd (counted matched) (by decide)

end UriRouting.Route
