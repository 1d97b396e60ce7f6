import UriRouting.Model

/-! # Type hints

The parameters of a view may be annotated with what they hold. Three kinds of annotation mean
something to routing: text, the match, and models. All others are only told apart by the way they
are shown.

An annotation may also be a name that is looked up when the hints of the view are asked for. A
name that means nothing is noticed only then.
-/

namespace UriRouting

/-- What a parameter is annotated to hold. -/
inductive Hint where
  | text
  | found
  | record (model : Model)
  | other (label : String)
  deriving Repr, DecidableEq

namespace Hint

/-- How messages show a hint (`_type_label`). -/
def label : Hint → String
  | .text => "str"
  | .found => "Match"
  | .record model => model.name
  | .other label => label

/-- The model whose record is asked for (`is_basemodel`). -/
def model? : Hint → Option Model
  | .record model => some model
  | _ => none

def isModel (hint : Hint) : Bool :=
  hint.model?.isSome

end Hint

inductive Ascription where
  | direct (hint : Hint)
  /-- With a name that is looked up later. -/
  | named (name : String)
  deriving Repr, DecidableEq

/-- The hint of an annotation where the given names mean something, or the name that does not. -/
def Ascription.resolve (scope : Params Hint) : Ascription → Except String Hint
  | .direct hint => .ok hint
  | .named name =>
    match scope.get? name with
    | some hint => .ok hint
    | none => .error name

end UriRouting
