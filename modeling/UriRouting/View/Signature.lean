import UriRouting.View

/-! # What can be asked of a view before it is called

The signature of a view is the parameters that a call can still fill. A parameter that has its value
by position is gone from it. One that was bound by name is still there, because a call may give the
name another value, but it takes no position any more, and neither does any parameter after it; so
nothing is left to gather. There is no signature when the callee does not tell its parameters, or
when what was bound does not fit them.

When arguments are bound to a view that keeps some already, they have to fit what the signature of
that view leaves. A parameter that collects takes every name that is not left, even that of a
parameter which has its value by position already: such a view has a signature, and no call of it
can succeed.

The hints of a view are those of its callee, whatever has been bound.
-/

namespace UriRouting

inductive Refusal where
  | unknownName (name : String)
  | untold (report : String)
  | misbound (shown : String)
  deriving Repr, DecidableEq

def Refusal.message : Refusal → String
  | .unknownName name => "name '" ++ name ++ "' is not defined"
  | .untold report => report
  | .misbound shown => "partial object " ++ shown ++ " has incorrect arguments"

/-- Whether a value can be bound under a name: a parameter takes it, or one collects. A parameter
that takes positions only keeps its name from being collected as long as it has no value. -/
def acceptsName (left : List Parameter) (name : String) : Bool :=
  (left.any fun parameter =>
    parameter.collects || (parameter.takesName && parameter.name == name)) &&
    left.all fun parameter => !(parameter.kind == .positionalOnly && parameter.name == name)

/-- A parameter that takes no position: one that took its value by position or by name takes it by
name only. -/
def Parameter.byName (parameter : Parameter) : Parameter :=
  match parameter.kind with
  | .standard => { parameter with kind := .keywordOnly }
  | _ => parameter

def Parameter.staysOpen (names : List String) (parameter : Parameter) : Bool :=
  !(parameter.kind == .standard && names.contains parameter.name)

/-- The parameters when the given names are bound: from the first one that has such a name and took
positions, none does, and nothing is gathered. -/
def closePositions (names : List String) (parameters : List Parameter) : List Parameter :=
  parameters.takeWhile (Parameter.staysOpen names) ++
    ((parameters.dropWhile (Parameter.staysOpen names)).filter
      fun parameter => !parameter.gathers).map Parameter.byName

/-- The parameters that are left of some when so many values are bound by position, and values under
these names (`Signature.bind_partial`). -/
def bindParameters (count : Nat) (names : List String) (parameters : List Parameter) :
    Option (List Parameter) :=
  let left := unfilled count parameters
  if (count ≤ (leading parameters).length || parameters.any Parameter.gathers) &&
      ((filled count parameters).all fun parameter =>
        !(parameter.takesName && names.contains parameter.name)) &&
      names.all (acceptsName left) then
    some (closePositions names left)
  else none

/-- The parameters that a call of a view can fill (`inspect.signature`). Of several bindings that do
not fit, the innermost one is refused. -/
def View.signature : View → Except Refusal (List Parameter)
  | .plain callee =>
    match callee.told with
    | .tells signature => .ok signature.parameters
    | .hides report => .error (.untold report)
  | .applied inner arguments keywords shown =>
    match inner.signature with
    | .error refusal => .error refusal
    | .ok parameters =>
      match bindParameters arguments.length keywords.keys parameters with
      | some left => .ok left
      | none => .error (.misbound shown)

def resolveNamed (scope : Params Hint) (ascribed : String × Ascription) :
    Except Refusal (String × Hint) :=
  match ascribed.2.resolve scope with
  | .error unknown => .error (.unknownName unknown)
  | .ok hint => .ok (ascribed.1, hint)

/-- The hints of a view by name (`view_type_hints`). -/
def View.hints (view : View) : Except Refusal (Params Hint) :=
  (view.callee.annotations.entries.mapM (resolveNamed view.callee.scope)).map Params.ofList

end UriRouting
