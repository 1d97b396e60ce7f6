import Mathlib
import UriRouting.Proofs.Route.RoundTrip
import UriRouting.Proofs.Template.Remainder

/-! # Building by name

The values are written in the order of the map, one rescan of the whole text for each. Yet building by
name is substitution at one stroke, as long as the pattern tells each name apart from the ends of its
placeholders' names. So neither the order of the map nor names without a placeholder show in the URI,
and the URI is a pattern again, with the placeholders that got no value.
-/

namespace UriRouting

/-- Whether the text of a placeholder with this name can stand in the pattern as a whole placeholder
only: the name has no closing brace, and no placeholder's name ends with an opening brace and it. -/
def Template.TellsApart (template : Template) (key : String) : Prop :=
  '}' ∉ key.toList ∧ ∀ name ∈ template.names, ¬ '{' :: key.toList <:+ name

instance (template : Template) (key : String) : Decidable (template.TellsApart key) :=
  inferInstanceAs (Decidable (_ ∧ ∀ name ∈ template.names, ¬ _ <:+ name))

namespace Route

variable {route : Route} {routeParams : Params String}

theorem fillAll_entries (apart : ∀ key ∈ routeParams.keys, route.template.TellsApart key) :
    route.fillAll routeParams.entries =
      fragmentMark :: route.template.write (Template.written routeParams.entries) := by
  have told : ∀ entry ∈ routeParams.entries, route.template.TellsApart entry.1 :=
    fun entry member => apart entry.1 (List.mem_map_of_mem member)
  exact Template.fillAll_eq route (fun entry member => (told entry member).1)
    fun entry member => (told entry member).2

theorem not_mem_written {entries : List (String × String)} {name text : List Char}
    (value : Template.written entries name = some text) : '{' ∉ text := by
  obtain ⟨plain, -, rfl⟩ := Option.map_eq_some_iff.mp value
  exact Percent.not_mem_encodeChars (by decide) _

theorem write_congr {others : Params String}
    (same : ∀ name ∈ route.placeholders, others.get? name = routeParams.get? name) :
    route.template.write (Template.written others.entries) =
      route.template.write (Template.written routeParams.entries) := by
  refine congrArg route.template.spell (List.map_congr_left fun name member => ?_)
  have value : others.entries.lookup (String.ofList name) =
      routeParams.entries.lookup (String.ofList name) := same _ (mem_names_iff.mp member)
  rw [Template.standIn, Template.standIn, Template.written, Template.written, value]

theorem placeholderNames_write :
    placeholderNames (String.ofList (fragmentMark ::
        route.template.write (Template.written routeParams.entries))) =
      route.placeholders.filter (· ∉ routeParams.keys) := by
  have names : (Template.ofChars (fragmentMark ::
      route.template.write (Template.written routeParams.entries))).names =
        route.template.names.filter fun name =>
          (Template.written routeParams.entries name).isNone := by
    rw [Template.ofChars_literal (by decide)]
    exact Template.names_ofChars_write (Template.isCut_ofChars _) fun _ _ => not_mem_written
  rw [placeholderNames, String.toList_ofList, names, placeholders, placeholderNames, List.filter_map]
  refine congrArg (List.map String.ofList) (List.filter_congr fun name _ => ?_)
  rw [Function.comp_apply, Bool.eq_iff_iff, Option.isNone_iff_eq_none, decide_eq_true_eq,
    Template.written, Option.map_eq_none_iff, lookup_eq_none_iff, Params.keys]

/-- Building by name writes all values at once, each into the placeholders of its name, and leaves
everything else as it is. Maps that give the placeholders the same values make the same URI, in
whatever order they are and whatever else they hold. The URI has the placeholders without a value. -/
theorem buildWith_substitutes (apart : ∀ key ∈ routeParams.keys, route.template.TellsApart key) :
    route.buildWith routeParams .empty =
        String.ofList (fragmentMark ::
          route.template.write (Template.written routeParams.entries)) ∧
      (∀ others : Params String, (∀ key ∈ others.keys, route.template.TellsApart key) →
        (∀ name ∈ route.placeholders, others.get? name = routeParams.get? name) →
        route.buildWith others .empty = route.buildWith routeParams .empty) ∧
      placeholderNames (route.buildWith routeParams .empty) =
        route.placeholders.filter (· ∉ routeParams.keys) := by
  have built := congrArg String.ofList (fillAll_entries apart)
  rw [← buildWith_empty] at built
  refine ⟨built, fun others othersApart same => ?_, ?_⟩
  · rw [buildWith_empty, fillAll_entries othersApart, write_congr same, ← built]
  · rw [built, placeholderNames_write]

/-- The route of `}{a}/{b{c}:{c}{a}{`. The name `c` could not be given here, since another one ends
like its placeholder. -/
def frayed : Route := .ofPattern 1 "\x7d{a}/\x7bb{c}:{c}{a}\x7b"

theorem buildWith_substitutes_frayed :
    (∀ key ∈ (Params.ofList [("z", "1"), ("a", "{c}")]).keys, frayed.template.TellsApart key) ∧
      ¬ frayed.template.TellsApart "c" ∧
      frayed.buildWith (.ofList [("z", "1"), ("a", "{c}")]) .empty =
        "#\x7d%7Bc%7D/\x7bb{c}:{c}%7Bc%7D\x7b" ∧
      frayed.buildWith (.ofList [("a", "{c}"), ("", "é")]) .empty =
        frayed.buildWith (.ofList [("z", "1"), ("a", "{c}")]) .empty ∧
      placeholderNames (frayed.buildWith (.ofList [("z", "1"), ("a", "{c}")]) .empty) =
        ["b\x7bc", "c"] := by
  have apart : ∀ key ∈ (Params.ofList [("z", "1"), ("a", "{c}")]).keys,
      frayed.template.TellsApart key := by decide
  obtain ⟨built, independent, left⟩ := buildWith_substitutes apart
  refine ⟨apart, by decide, built.trans (by decide), independent _ (by decide) (by decide), ?_⟩
  exact left.trans (by decide)

end Route

end UriRouting
