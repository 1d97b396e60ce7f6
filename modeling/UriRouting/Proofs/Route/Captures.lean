import Mathlib
import UriRouting.Proofs.Route.Matching

/-! # Captures and the placeholders that they fill

The names of the placeholders are read off a pattern, and so are the literals between which a path is
captured. Both readings are of one cut, and there is no other way to cut the pattern: so there are as many
captures as names, whatever braces stand in the pattern, and each text comes to its own name.

Two placeholders may have one name. Their captures are still two, and only the map that is made of them
has one entry.
-/

namespace UriRouting

namespace Template

/-- The names and literals that a pattern can be cut into are those that it is cut into. -/
theorem isCut_and_render_iff {template : Template} {pattern : List Char} :
    template.IsCut ∧ template.render = pattern ↔ template = ofChars pattern := by
  constructor
  · rintro ⟨cut, rfl⟩
    exact (ofChars_render cut).symm
  · rintro rfl
    exact ⟨isCut_ofChars pattern, render_ofChars pattern⟩

end Template

theorem map_toList_placeholderNames (pattern : String) :
    (placeholderNames pattern).map String.toList = (Template.ofChars pattern.toList).names := by
  simp [placeholderNames, Function.comp_def]

theorem length_placeholderNames (pattern : String) :
    (placeholderNames pattern).length = (Template.ofChars pattern.toList).slots.length := by
  simp [placeholderNames, Template.names]

namespace Route

theorem declare_eq_ok_iff {serial : Nat} {form : RouteForm} {pattern : String} {declared : Int}
    {route : Route} :
    declare serial form pattern declared = .ok route ↔
      declared = (placeholderNames pattern).length ∧ route = ⟨serial, form, pattern⟩ := by
  simp only [declare]
  split
  · rename_i counted
    rw [Except.ok.injEq, eq_comm, and_iff_right counted.symm]
  · rename_i miscounted
    simp [Ne.symm miscounted]

theorem length_of_isDivision {route : Route} {captures : List (List Char)} {path : List Char}
    (division : route.template.IsDivision captures path) :
    captures.length = route.placeholders.length :=
  division.arity.trans (length_placeholderNames route.pattern).symm

/-- What a match holds are all the texts of the captures, each under the name of its placeholder. -/
theorem texts_of_matchUri {route : Route} {uri : String} {found : Match}
    (matched : route.matchUri uri = .ok (some found)) :
    ∃ captures texts, route.template.capture (pathOf uri) = some captures ∧
      List.Forall₂ (fun capture text => decodeCapture capture = .ok text) captures texts ∧
      (route.placeholders.zip texts).unzip = (route.placeholders, texts) ∧
      found.routeParams.IsMapOf (route.placeholders.zip texts) := by
  obtain ⟨captures, texts, greatest, decoded, -, -, made⟩ := matchUri_eq_some_iff.mp matched
  have length : texts.length = route.placeholders.length :=
    decoded.length_eq.symm.trans (length_of_isDivision greatest.toIsDivision)
  simp only [← decodeCapture_eq_ok_iff] at decoded
  refine ⟨captures, texts, Template.capture_eq_some_iff.mpr greatest, decoded, ?_, made⟩
  exact List.unzip_zip length.symm

/-- A pattern can be cut in one way. The names of the placeholders are those of this cut, it is declared
with as many of them, and a path is captured between the literals of this cut, so that every capture has
a placeholder and every placeholder has a capture. -/
theorem captures_fill_placeholders (pattern : String) :
    ∃ template : Template,
      (∀ other : Template, other.IsCut ∧ other.render = pattern.toList ↔ other = template) ∧
      (placeholderNames pattern).map String.toList = template.names ∧
      (∀ serial form declared route, declare serial form pattern declared = .ok route ↔
        declared = template.slots.length ∧ route = ⟨serial, form, pattern⟩) ∧
      ∀ route : Route, route.pattern = pattern →
        route.placeholders = placeholderNames pattern ∧ route.arity = template.slots.length ∧
        ∀ uri,
          (route.matchUri uri = .ok none ↔
            ¬ ∃ captures, template.IsDivision captures (pathOf uri)) ∧
          (∀ captures, route.template.capture (pathOf uri) = some captures →
            template.IsDivision captures (pathOf uri) ∧ captures.length = route.arity ∧
              captures.length = route.placeholders.length) ∧
          ∀ found, route.matchUri uri = .ok (some found) →
            ∃ captures texts, route.template.capture (pathOf uri) = some captures ∧
              List.Forall₂ (fun capture text => decodeCapture capture = .ok text) captures texts ∧
              (route.placeholders.zip texts).unzip = (route.placeholders, texts) ∧
              found.routeParams.IsMapOf (route.placeholders.zip texts) := by
  refine ⟨.ofChars pattern.toList, fun _ => Template.isCut_and_render_iff,
    map_toList_placeholderNames pattern, ?_, ?_⟩
  · intro serial form declared route
    rw [declare_eq_ok_iff, length_placeholderNames]
  rintro route rfl
  refine ⟨rfl, length_placeholderNames route.pattern, fun uri => ⟨matchUri_eq_none_iff, ?_, ?_⟩⟩
  · intro captures found
    have division := Template.isDivision_of_capture found
    exact ⟨division, length_of_isDivision division, length_of_isDivision division⟩
  · exact fun found => texts_of_matchUri

/-- The pattern `/{a{b}}-{}{c`, of which one name has an opening brace in it, and the other one has
nothing. A literal has a closing brace, and the last brace opens nothing. -/
def braced : String := "/{a{b}}-{}\x7bc"

theorem captures_fill_placeholders_braced :
    ∃ template : Template,
      (template.IsCut ∧ template.render = braced.toList) ∧
      declare 1 .general braced 2 = .ok ⟨1, .general, braced⟩ ∧ template.slots.length = 2 ∧
      template.IsDivision [['x'], ['y']] (pathOf "/x\x7d-y\x7bc?q") := by
  obtain ⟨template, unique, -, declared, matched⟩ := captures_fill_placeholders braced
  have made : declare 1 .general braced 2 = .ok ⟨1, .general, braced⟩ := by decide
  have counted := ((declared _ _ _ _).mp made).1
  obtain ⟨-, -, uris⟩ := matched ⟨1, .general, braced⟩ rfl
  obtain ⟨division, -⟩ := (uris "/x\x7d-y\x7bc?q").2.1 [['x'], ['y']] (by decide)
  exact ⟨template, (unique template).mpr rfl, made, by exact_mod_cast counted.symm, division⟩

end Route

end UriRouting
