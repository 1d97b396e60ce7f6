import Mathlib
import UriRouting.Strict
import UriRouting.Proofs.Failure
import UriRouting.Proofs.View.Arguments
import UriRouting.Proofs.View.Hinting

/-! # Which views strict mode accepts

Strict mode asks for hints and for a signature, and then every parameter has to conform. What it has to
hold is settled by its name: a text, the match, or a record. The first parameter that does not conform is
reported with the rule that it breaks.

Only names are judged. A parameter that was bound by position has none in the signature any more and is
not looked at. One that was bound by name has, although the binding gives it a value already. One that
gathers values by position is not bound by any of them: it is looked at as long as it can gather more.
-/

namespace UriRouting

namespace Strict

variable {placeholders names : List String} {name : String} {hint? : Option Hint} {cause : Cause}
  {hints : Params Hint} {view : View} {route : Route} {left : List Parameter} {refusal : Refusal}

inductive Conforms (placeholders : List String) (name : String) : Option Hint → Prop where
  | placeholder : name ∈ placeholders → Conforms placeholders name (some .text)
  | itself : name ∉ placeholders → name = matchName → Conforms placeholders name (some .found)
  | record (model : Model) :
    name ∉ placeholders → name ≠ matchName → Conforms placeholders name (some (.record model))

/-- The rule that is broken by a parameter of this name. Having no hint comes before all other ways. -/
inductive Breaks (placeholders : List String) (name : String) : Option Hint → Cause → Prop where
  | untyped : Breaks placeholders name none .untyped
  | notText {hint : Hint} :
    name ∈ placeholders → hint ≠ .text → Breaks placeholders name (some hint) (.notText hint)
  | notMatch {hint : Hint} : name ∉ placeholders → name = matchName → hint ≠ .found →
    Breaks placeholders name (some hint) (.notMatch hint)
  | notModel {hint : Hint} : name ∉ placeholders → name ≠ matchName →
    (∀ model, hint ≠ .record model) → Breaks placeholders name (some hint) (.notModel hint)

def Cause.line (parameter : String) : Cause → String
  | .untyped => "  Problem: Parameter '" ++ parameter ++ "' has no type annotation.\n"
  | .notText _ => "  Problem: Route parameter '" ++ parameter ++ "' is always a string.\n"
  | .notMatch _ => "  Problem: Parameter '" ++ parameter ++ "' must be annotated as Match.\n"
  | .notModel _ =>
    "  Problem: Non-route parameter '" ++ parameter ++ "' must be a BaseModel subclass.\n"

def Rejection.forPattern (pattern : String) : Rejection → Rejection
  | .refused refusal => .refused refusal
  | .violation found => .violation { found with pattern }

theorem isModel_eq_true_iff {hint : Hint} : hint.isModel = true ↔ ∃ model, hint = .record model := by
  cases hint <;> simp [Hint.isModel, Hint.model?]

section

variable (hint : Hint)

theorem broken?_of_mem (member : name ∈ placeholders) :
    broken? placeholders name (some hint) =
      if hint = .text then none else some (.notText hint) := by
  simp only [broken?, List.contains_iff_mem.mpr member, if_true]

theorem broken?_of_eq_matchName (absent : name ∉ placeholders) (itself : name = matchName) :
    broken? placeholders name (some hint) =
      if hint = .found then none else some (.notMatch hint) := by
  simp only [broken?, List.contains_iff_mem, if_neg absent, if_pos itself]

theorem broken?_of_ne_matchName (absent : name ∉ placeholders) (other : name ≠ matchName) :
    broken? placeholders name (some hint) =
      if hint.isModel then none else some (.notModel hint) := by
  simp only [broken?, List.contains_iff_mem, if_neg absent, if_neg other]

end

/-- A parameter conforms, or it breaks the rule that is found. -/
theorem broken?_cases (placeholders : List String) (name : String) (hint? : Option Hint) :
    (Conforms placeholders name hint? ∧ broken? placeholders name hint? = none) ∨
      ∃ cause, Breaks placeholders name hint? cause ∧
        broken? placeholders name hint? = some cause := by
  cases hint? with
  | none => exact .inr ⟨.untyped, .untyped, rfl⟩
  | some hint =>
      by_cases member : name ∈ placeholders
      · rw [broken?_of_mem hint member]
        split
        · subst hint
          exact .inl ⟨.placeholder member, rfl⟩
        · rename_i differs
          exact .inr ⟨_, .notText member differs, rfl⟩
      by_cases itself : name = matchName
      · rw [broken?_of_eq_matchName hint member itself]
        split
        · subst hint
          exact .inl ⟨.itself member itself, rfl⟩
        · rename_i differs
          exact .inr ⟨_, .notMatch member itself differs, rfl⟩
      · rw [broken?_of_ne_matchName hint member itself]
        split
        · rename_i asks
          obtain ⟨model, rfl⟩ := isModel_eq_true_iff.mp asks
          exact .inl ⟨.record model member itself, rfl⟩
        · rename_i differs
          refine .inr ⟨_, .notModel member itself fun model same => ?_, rfl⟩
          exact differs (isModel_eq_true_iff.mpr ⟨model, same⟩)

theorem broken?_eq_none_iff :
    broken? placeholders name hint? = none ↔ Conforms placeholders name hint? := by
  constructor
  · intro fine
    rcases broken?_cases placeholders name hint? with ⟨conforms, -⟩ | ⟨cause, -, broken⟩
    · exact conforms
    · cases fine.symm.trans broken
  · rintro (member | ⟨absent, itself⟩ | ⟨model, absent, other⟩)
    · rw [broken?_of_mem _ member, if_pos rfl]
    · rw [broken?_of_eq_matchName _ absent itself, if_pos rfl]
    · rw [broken?_of_ne_matchName _ absent other]
      rfl

theorem broken?_eq_some_iff :
    broken? placeholders name hint? = some cause ↔ Breaks placeholders name hint? cause := by
  constructor
  · intro found
    rcases broken?_cases placeholders name hint? with ⟨-, fine⟩ | ⟨other, breaks, broken⟩
    · cases fine.symm.trans found
    · rwa [Option.some.inj (found.symm.trans broken)]
  · rintro (_ | ⟨member, differs⟩ | ⟨absent, itself, differs⟩ | ⟨absent, other, differs⟩)
    · rfl
    · rw [broken?_of_mem _ member, if_neg differs]
    · rw [broken?_of_eq_matchName _ absent itself, if_neg differs]
    · rw [broken?_of_ne_matchName _ absent other, if_neg]
      intro asks
      obtain ⟨model, same⟩ := isModel_eq_true_iff.mp asks
      exact differs model same

theorem firstBroken?_eq_none_iff :
    firstBroken? placeholders hints names = none ↔
      ∀ name ∈ names, Conforms placeholders name (hints.get? name) := by
  simp only [firstBroken?, List.findSome?_eq_none_iff, Option.map_eq_none_iff, broken?_eq_none_iff]

theorem firstBroken?_eq_some_iff :
    firstBroken? placeholders hints names = some (name, cause) ↔
      ∃ before after, names = before ++ name :: after ∧
        (∀ earlier ∈ before, Conforms placeholders earlier (hints.get? earlier)) ∧
        Breaks placeholders name (hints.get? name) cause := by
  simp only [firstBroken?, List.findSome?_eq_some_iff, Option.map_eq_some_iff, Option.map_eq_none_iff,
    broken?_eq_none_iff, broken?_eq_some_iff, Prod.mk.injEq]
  constructor
  · rintro ⟨before, _, after, split, ⟨_, breaks, rfl, rfl⟩, fine⟩
    exact ⟨before, after, split, fine, breaks⟩
  · rintro ⟨before, after, split, fine, breaks⟩
    exact ⟨before, name, after, split, ⟨cause, breaks, rfl, rfl⟩, fine⟩

theorem firstBroken?_congr {others : List String}
    (same : ∀ name, name ∈ others ↔ name ∈ placeholders) (hints : Params Hint) (names : List String) :
    firstBroken? others hints names = firstBroken? placeholders hints names := by
  have tests : ∀ name, others.contains name = placeholders.contains name := by
    intro name
    rw [Bool.eq_iff_iff, List.contains_iff_mem, List.contains_iff_mem, same]
  simp only [firstBroken?, broken?, tests]

/-! What is asked for first, and what then -/

theorem check_of_hints_error (unhinted : view.hints = .error refusal) :
    check view route = .error (.refused refusal) := by
  simp only [check, unhinted]

theorem check_of_signature_error (hinted : view.hints = .ok hints)
    (unknown : view.signature = .error refusal) :
    check view route = .error (.refused refusal) := by
  simp only [check, hinted, unknown]

theorem check_eq_ok_iff (hinted : view.hints = .ok hints) (known : view.signature = .ok left) :
    check view route = .ok () ↔
      ∀ name ∈ left.map Parameter.name, Conforms route.placeholders name (hints.get? name) := by
  rw [← firstBroken?_eq_none_iff]
  simp only [check, hinted, known]
  split <;> simp_all

theorem check_eq_error_iff (hinted : view.hints = .ok hints) (known : view.signature = .ok left)
    {rejection : Rejection} :
    check view route = .error rejection ↔
      ∃ before name after cause, left.map Parameter.name = before ++ name :: after ∧
        (∀ earlier ∈ before, Conforms route.placeholders earlier (hints.get? earlier)) ∧
        Breaks route.placeholders name (hints.get? name) cause ∧
        rejection = .violation ⟨view.label, route.pattern, name, cause⟩ := by
  constructor
  · intro failed
    simp only [check, hinted, known] at failed
    split at failed
    · rename_i name cause found
      obtain rfl := Except.error.inj failed
      obtain ⟨before, after, split, fine, breaks⟩ := firstBroken?_eq_some_iff.mp found
      exact ⟨before, name, after, cause, split, fine, breaks, rfl⟩
    · cases failed
  · rintro ⟨before, name, after, cause, split, fine, breaks, rfl⟩
    have found := firstBroken?_eq_some_iff.mpr ⟨before, after, split, fine, breaks⟩
    simp only [check, hinted, known, found]

theorem check_eq_refused_iff :
    check view route = .error (.refused refusal) ↔
      view.hints = .error refusal ∨
        (∃ hints, view.hints = .ok hints) ∧ view.signature = .error refusal := by
  cases hinted : view.hints with
  | error other => simp [check_of_hints_error hinted]
  | ok hints =>
      cases known : view.signature with
      | error other => simp [check_of_signature_error hinted known]
      | ok left => simp [check_eq_error_iff hinted known]

theorem check_forPattern {other : Route}
    (same : ∀ name, name ∈ other.placeholders ↔ name ∈ route.placeholders) (view : View) :
    check view other = (check view route).mapError (Rejection.forPattern other.pattern) := by
  cases hinted : view.hints with
  | error refusal =>
      rw [check_of_hints_error hinted, check_of_hints_error hinted]
      rfl
  | ok hints =>
      cases known : view.signature with
      | error refusal =>
          rw [check_of_signature_error hinted known, check_of_signature_error hinted known]
          rfl
      | ok left =>
          simp only [check, hinted, known, firstBroken?_congr same]
          cases firstBroken? route.placeholders hints (left.map Parameter.name) <;> rfl

theorem line_notMatch (hint : Hint) :
    Cause.line matchName (.notMatch hint) =
      "  Problem: Parameter 'match' must be annotated as Match.\n" := by
  change "  Problem: Parameter '" ++ matchName ++ "' must be annotated as Match.\n" = _
  decide

/-- The message of a violation says which parameter breaks which rule. -/
theorem message_says (breaks : Breaks placeholders name hint? cause) (shown pattern : String) :
    ∃ before after, Violation.message ⟨shown, pattern, name, cause⟩ =
      before ++ cause.line name ++ after := by
  let opening := "\n\nStrict-mode violation in view '" ++ shown ++ "' [" ++ pattern ++ "]\n"
  let current (hint : Hint) := "  Current: " ++ name ++ ": " ++ hint.label ++ "\n"
  cases breaks with
  | untyped =>
      refine ⟨opening, "  Fix:     Add a type annotation, e.g. " ++ name ++ ": str or " ++ name ++
        ": YourModel.\n", ?_⟩
      unfold Violation.message Violation.advice Cause.line
      simp only [opening, String.append_assoc]
  | @notText hint =>
      refine ⟨opening ++ current hint, "  Fix:     Annotate it as " ++ name ++
        ": str and convert inside the view.\n", ?_⟩
      unfold Violation.message Violation.advice Cause.line
      simp only [opening, current, String.append_assoc]
  | @notMatch hint _ itself =>
      refine ⟨opening ++ current hint, "  Fix:     Use match: Match.\n", ?_⟩
      subst itself
      rw [line_notMatch]
      unfold Violation.message Violation.advice
      simp only [opening, current, String.append_assoc]
  | @notModel hint =>
      refine ⟨opening ++ current hint, "  Fix:     Wrap '" ++ name ++
        "' fields in a Pydantic model, e.g. " ++ name ++ ": " ++ Text.title name ++ "Model.\n" ++
        "  Rejected types: dict, list, str, int, and other primitives.\n", ?_⟩
      unfold Violation.message Violation.advice Cause.line
      simp only [opening, current, String.append_assoc]

theorem message_of_check {found : Violation} (failed : check view route = .error (.violation found)) :
    ∃ before after, found.message = before ++ found.cause.line found.parameter ++ after := by
  cases hinted : view.hints with
  | error refusal =>
      rw [check_of_hints_error hinted] at failed
      cases failed
  | ok hints =>
      cases known : view.signature with
      | error refusal =>
          rw [check_of_signature_error hinted known] at failed
          cases failed
      | ok left =>
          obtain ⟨_, _, _, _, -, -, breaks, same⟩ := (check_eq_error_iff hinted known).mp failed
          obtain rfl := Rejection.violation.inj same
          exact message_says breaks _ _

/-- Strict mode accepts a view if and only if all parameters of its signature conform, and otherwise says
of the first one what is wrong with it. Before that, it refuses a view without hints, for a name that means
nothing, and then one without signature, for another reason. What was bound by position is not looked at,
and of the route only the names of the placeholders are. -/
theorem check_accepts_conforming (view : View) (route : Route) :
    (∀ refusal, check view route = .error (.refused refusal) ↔
      view.hints = .error refusal ∨
        (∃ hints, view.hints = .ok hints) ∧ view.signature = .error refusal) ∧
    (∀ refusal, view.hints = .error refusal → ∃ name, refusal = .unknownName name) ∧
    (∀ refusal, view.signature = .error refusal → ∀ name, refusal ≠ .unknownName name) ∧
    (∀ hints left, view.hints = .ok hints → view.signature = .ok left →
      (∃ signature, view.callee.told = .tells signature ∧
        left = closePositions view.keywords.keys
          (unfilled view.arguments.length signature.parameters) ∧
        (∀ parameter ∈ filled view.arguments.length signature.parameters,
          parameter.name ∉ left.map Parameter.name) ∧
        ∀ parameter ∈ unfilled view.arguments.length signature.parameters,
          parameter.gathers = false → parameter.name ∈ left.map Parameter.name) ∧
      (∀ name, (hints.get? name = none ↔ view.callee.annotations.get? name = none) ∧
        ∀ hint, hints.get? name = some hint ↔
          ∃ ascription, view.callee.annotations.get? name = some ascription ∧
            ascription.resolve view.callee.scope = .ok hint) ∧
      (check view route = .ok () ↔
        ∀ name ∈ left.map Parameter.name, Conforms route.placeholders name (hints.get? name)) ∧
      ∀ rejection, check view route = .error rejection ↔
        ∃ before name after cause, left.map Parameter.name = before ++ name :: after ∧
          (∀ earlier ∈ before, Conforms route.placeholders earlier (hints.get? earlier)) ∧
          Breaks route.placeholders name (hints.get? name) cause ∧
          rejection = .violation ⟨view.label, route.pattern, name, cause⟩) ∧
    (∀ found, check view route = .error (.violation found) →
      ∃ before after, found.message = before ++ found.cause.line found.parameter ++ after) ∧
    ∀ other : Route, (∀ name, name ∈ other.placeholders ↔ name ∈ route.placeholders) →
      check view other = (check view route).mapError (Rejection.forPattern other.pattern) := by
  refine ⟨fun _ => check_eq_refused_iff, fun _ => View.exists_unknownName,
    fun _ => View.ne_unknownName_of_signature, ?_, fun _ => message_of_check,
    fun _ same => check_forPattern same view⟩
  intro hints left hinted known
  refine ⟨?_, View.get?_hints hinted, check_eq_ok_iff hinted known,
    fun _ => check_eq_error_iff hinted known⟩
  obtain ⟨signature, told, leaves⟩ := leaves_of_signature known
  refine ⟨signature, told, leaves.left_eq, ?_, ?_⟩
  · intro parameter taken among
    obtain ⟨kept, inside, same⟩ := List.mem_map.mp among
    exact leaves.name_ne_of_mem_filled taken inside same
  · intro parameter behind single
    obtain ⟨kept, inside, same⟩ := leaves.exists_kept behind single
    exact same.name ▸ List.mem_map_of_mem inside

/-- The first parameter of this view would not conform, but it has its value by position. The third one has
a value by name, and does not conform either. -/
def halfBound : View :=
  (View.plain (.function "show" {
      parameters := [⟨"a", .standard, none⟩, ⟨"b", .standard, none⟩, ⟨"c", .standard, none⟩,
        ⟨"more", .variadic, none⟩]
      distinct := by decide
      ordered := by decide
    } (.ofList [("b", .named "str"), ("c", .direct (.other "int"))])
      (.ofList [("str", .text)]))).withArguments false [.other "1"] (.ofList [("c", .other "2")]) "<p>"

theorem check_accepts_conforming_halfBound :
    check halfBound ⟨1, .fixed, "/{b}"⟩ =
        .error (.violation ⟨"<p>", "/{b}", "c", .notModel (.other "int")⟩) ∧
      check halfBound ⟨2, .general, "/{b}/{b}"⟩ =
        .error (.violation ⟨"<p>", "/{b}/{b}", "c", .notModel (.other "int")⟩) := by
  obtain ⟨-, -, -, judged, -, others⟩ := check_accepts_conforming halfBound ⟨1, .fixed, "/{b}"⟩
  obtain ⟨-, -, -, rejected⟩ := judged (.ofList [("b", .text), ("c", .other "int")])
    [⟨"b", .standard, none⟩, ⟨"c", .keywordOnly, none⟩] (by decide) (by decide)
  have violation := (rejected _).mpr ⟨["b"], "c", [], .notModel (.other "int"), rfl,
    by simpa using .placeholder (by decide), .notModel (by decide) (by decide) nofun, rfl⟩
  refine ⟨violation, ?_⟩
  rw [others ⟨2, .general, "/{b}/{b}"⟩, violation]
  · rfl
  · have names : Route.placeholders ⟨2, .general, "/{b}/{b}"⟩ = ["b", "b"] := by decide
    have name : Route.placeholders ⟨1, .fixed, "/{b}"⟩ = ["b"] := by decide
    simp [names, name]

end Strict

end UriRouting
