import UriRouting.View.Signature

/-! # Calling a view

Values reach a callee by position, from what was bound, and under names, from what was bound and
from the call itself, where the call decides. A parameter takes the value of its position or of
its name, never both, and otherwise its default. A parameter that has none of these is missing. A
value that no parameter takes is one too many, unless there is a parameter that gathers or collects
such values.
-/

namespace UriRouting

/-- Why a call did not reach a view. -/
inductive CallFailure where
  | invalidModel (fault : ModelFault)
  | misfit
  deriving Repr, DecidableEq

/-- What ran, and what the parameters of each of its bodies held. -/
structure Outcome where
  callee : Callee
  arguments : List (List (String × Argument))
  deriving DecidableEq

/-- What a parameter holds that has no value of its own by position. -/
def Parameter.held? (parameter : Parameter) (extra : List Value) (collected keywords : Params Value) :
    Option Argument :=
  match parameter.kind with
  | .positionalOnly => parameter.default?.map (.single ∘ .scalar)
  | .standard | .keywordOnly =>
    ((keywords.get? parameter.name).or (parameter.default?.map .scalar)).map .single
  | .variadic => some (.gathered extra)
  | .collecting => some (.collected collected)

namespace Signature

variable (signature : Signature)

def takes (name : String) : Bool :=
  signature.parameters.any fun parameter => parameter.takesName && parameter.name == name

def unclaimed (keywords : Params Value) : Params Value :=
  keywords.filterKeys fun name => !signature.takes name

/-- What the parameters hold when they are given values by position and by name, if these fit. -/
def fill? (positional : List Value) (keywords : Params Value) : Option (List (String × Argument)) :=
  let taken := filled positional.length signature.parameters
  let extra := positional.drop (leading signature.parameters).length
  let collected := signature.unclaimed keywords
  if (extra.isEmpty || signature.parameters.any Parameter.gathers) &&
      (collected.isEmpty || signature.parameters.any Parameter.collects) &&
      (taken.all fun parameter => !(parameter.takesName && keywords.contains parameter.name)) then
    let later := (unfilled positional.length signature.parameters).mapM fun parameter =>
      (parameter.held? extra collected keywords).map (parameter.name, ·)
    later.map ((taken.map Parameter.name).zip (positional.map Argument.single) ++ ·)
  else none

end Signature

namespace View

def positional (view : View) (body : Body) : List Value :=
  (body.receiver ++ view.arguments).map .scalar

def named (view : View) (body : Body) (given : Params Value) : Params Value :=
  ((body.preset.overlay view.keywords).map .scalar).overlay given

/-- Calls a view with values by name. -/
def call (view : View) (given : Params Value) : Except CallFailure Outcome :=
  match view.callee.bodies.mapM fun body =>
      body.signature.fill? (view.positional body) (view.named body given) with
  | some arguments => .ok ⟨view.callee, arguments⟩
  | none => .error .misfit

end View

end UriRouting
