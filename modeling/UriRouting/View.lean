import UriRouting.Value
import UriRouting.View.Hint

/-! # Views

A view is what a route leads to: something that can be called, or such a thing with some arguments
bound beforehand.

What a callee tells of itself, how it is annotated and what a call of it fills are three different
things. They agree for an ordinary function. A wrapper may tell the parameters of what it wraps; a
class is annotated where its objects are set up, and may make them elsewhere; a function that comes
with the language may tell nothing.
-/

namespace UriRouting

inductive ParameterKind where
  | positionalOnly
  | standard
  /-- It gathers the values by position that no other parameter takes. -/
  | variadic
  | keywordOnly
  /-- It collects the named values that no other parameter takes. -/
  | collecting
  deriving Repr, DecidableEq

/-- Whether a parameter of one kind may stand in front of one of another. Of the parameters that
gather there is at most one, and of those that collect. -/
def ParameterKind.precedes : ParameterKind → ParameterKind → Bool
  | .positionalOnly, _ => true
  | .standard, later => later != .positionalOnly
  | .variadic, later | .keywordOnly, later => later == .keywordOnly || later == .collecting
  | .collecting, _ => false

structure Parameter where
  name : String
  kind : ParameterKind
  default? : Option Scalar
  deriving DecidableEq

namespace Parameter

variable (parameter : Parameter)

/-- Whether a value by position can be that of the parameter, and of it alone. -/
def takesPosition : Bool :=
  parameter.kind == .positionalOnly || parameter.kind == .standard

def takesName : Bool :=
  parameter.kind == .standard || parameter.kind == .keywordOnly

def gathers : Bool :=
  parameter.kind == .variadic

def collects : Bool :=
  parameter.kind == .collecting

end Parameter

/-- The parameters in front, each of which takes one value by position. -/
def leading (parameters : List Parameter) : List Parameter :=
  parameters.takeWhile Parameter.takesPosition

/-- The parameters that have their values by position when so many are given. -/
def filled (count : Nat) (parameters : List Parameter) : List Parameter :=
  (leading parameters).take count

def unfilled (count : Nat) (parameters : List Parameter) : List Parameter :=
  parameters.drop (filled count parameters).length

/-- Parameters that can be declared together (`inspect.Signature`). -/
structure Signature where
  parameters : List Parameter
  distinct : (parameters.map Parameter.name).Nodup
  ordered : parameters.Pairwise fun first later => first.kind.precedes later.kind
  deriving DecidableEq

/-- What a call fills. -/
structure Body where
  signature : Signature
  /-- The values that come before all others by position, such as the object of a method. -/
  receiver : List Scalar
  /-- The values under names that the call does not give. -/
  preset : Params Scalar
  deriving DecidableEq

/-- What a callee tells of its parameters (`inspect.signature`). -/
inductive Disclosure where
  | tells (signature : Signature)
  | hides (report : String)
  deriving DecidableEq

/-- Something that can be called: a function, a method, a class, an object. -/
structure Callee where
  name : String
  /-- How messages and listings show it: by its name if it has one (`__name__`). -/
  label : String
  told : Disclosure
  /-- How its parameters and its result are annotated (`__annotations__`). -/
  annotations : Params Ascription
  scope : Params Hint
  /-- What a call of it fills, one after the other: of a class, what makes an object and what sets it
  up. -/
  bodies : List Body
  deriving DecidableEq

/-- A function that tells its own parameters. -/
def Callee.function (name : String) (signature : Signature) (annotations : Params Ascription)
    (scope : Params Hint) : Callee where
  name
  label := name
  told := .tells signature
  annotations
  scope
  bodies := [⟨signature, [], .empty⟩]

/-- What a route leads to. -/
inductive View where
  | plain (callee : Callee)
  /-- A view with arguments bound by position and by name (`functools.partial`), which is shown like
  this. One that tells a signature of its own counts as a callee. -/
  | applied (inner : View) (arguments : List Scalar) (keywords : Params Scalar) (shown : String)
  deriving DecidableEq

namespace View

/-- How messages and listings show a view. -/
def label : View → String
  | .plain callee => callee.label
  | .applied _ _ _ shown => shown

/-- Binds arguments. A view to which some have been bound already is taken apart for this, unless it
has attributes of its own: then it is kept as it is. -/
def withArguments (view : View) (attributed : Bool) (arguments : List Scalar)
    (keywords : Params Scalar) (shown : String) : View :=
  match view, attributed with
  | .applied inner first names _, false =>
    .applied inner (first ++ arguments) (names.overlay keywords) shown
  | view, _ => .applied view arguments keywords shown

def callee : View → Callee
  | .plain callee => callee
  | .applied inner _ _ _ => inner.callee

def arguments : View → List Scalar
  | .plain _ => []
  | .applied inner arguments _ _ => inner.arguments ++ arguments

/-- All values that have been bound by name; a name that is bound again has the outer value. -/
def keywords : View → Params Scalar
  | .plain _ => .empty
  | .applied inner _ keywords _ => inner.keywords.overlay keywords

end View

end UriRouting
