import UriRouting.Text.TitleCase
import UriRouting.View.Plan

/-! # Strict mode

A strict router looks at the annotations of a view before it lets a route lead to it. Every
parameter must say what it holds, and it must be something that a match can give: a parameter named
like a placeholder holds a text, the one named `match` holds the match, and any other one holds a
record of a model. The first parameter that breaks a rule is reported, with advice.

A placeholder may be named `match`; then the parameter of that name is judged as a placeholder's.
-/

namespace UriRouting.Strict

inductive Cause where
  | untyped
  | notText (hint : Hint)
  | notMatch (hint : Hint)
  | notModel (hint : Hint)
  deriving Repr, DecidableEq

structure Violation where
  view : String
  pattern : String
  parameter : String
  cause : Cause
  deriving Repr, DecidableEq

def Violation.advice (violation : Violation) : String :=
  let p := violation.parameter
  let current (hint : Hint) := "  Current: " ++ p ++ ": " ++ hint.label ++ "\n"
  match violation.cause with
  | .untyped =>
    "  Problem: Parameter '" ++ p ++ "' has no type annotation.\n" ++
      "  Fix:     Add a type annotation, e.g. " ++ p ++ ": str or " ++ p ++ ": YourModel.\n"
  | .notText hint =>
    current hint ++ "  Problem: Route parameter '" ++ p ++ "' is always a string.\n" ++
      "  Fix:     Annotate it as " ++ p ++ ": str and convert inside the view.\n"
  | .notMatch hint =>
    current hint ++ "  Problem: Parameter 'match' must be annotated as Match.\n" ++
      "  Fix:     Use match: Match.\n"
  | .notModel hint =>
    current hint ++
      "  Problem: Non-route parameter '" ++ p ++ "' must be a BaseModel subclass.\n" ++
      "  Fix:     Wrap '" ++ p ++ "' fields in a Pydantic model, e.g. " ++ p ++ ": " ++
      Text.title p ++ "Model.\n" ++
      "  Rejected types: dict, list, str, int, and other primitives.\n"

def Violation.message (violation : Violation) : String :=
  "\n\nStrict-mode violation in view '" ++ violation.view ++ "' [" ++ violation.pattern ++ "]\n" ++
    violation.advice

/-- The rule that a parameter of this name and hint breaks, if any. -/
def broken? (placeholders : List String) (name : String) (hint? : Option Hint) : Option Cause :=
  match hint? with
  | none => some .untyped
  | some hint =>
    if placeholders.contains name then
      if hint = .text then none else some (.notText hint)
    else if name = matchName then
      if hint = .found then none else some (.notMatch hint)
    else if hint.isModel then none
    else some (.notModel hint)

def firstBroken? (placeholders : List String) (hints : Params Hint) (names : List String) :
    Option (String × Cause) :=
  names.findSome? fun name => (broken? placeholders name (hints.get? name)).map (name, ·)

/-- Why a route may not lead to a view. -/
inductive Rejection where
  | refused (refusal : Refusal)
  | violation (violation : Violation)
  deriving Repr, DecidableEq

def Rejection.message : Rejection → String
  | .refused refusal => refusal.message
  | .violation found => found.message

/-- Looks for a rule of strict mode that a view breaks when a route leads to it
(`validate_view_signature`). Hints come before the signature, and both before the rules. -/
def check (view : View) (route : Route) : Except Rejection Unit :=
  match view.hints with
  | .error refusal => .error (.refused refusal)
  | .ok hints =>
    match view.signature with
    | .error refusal => .error (.refused refusal)
    | .ok parameters =>
      match firstBroken? route.placeholders hints (parameters.map Parameter.name) with
      | some (name, cause) => .error (.violation ⟨view.label, route.pattern, name, cause⟩)
      | none => .ok ()

end UriRouting.Strict
