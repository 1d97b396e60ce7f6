import UriRouting.View.Call

/-! # What a match gives to a view

Once the signature and the hints of a view are known, it is settled what each of its parameters
takes from a match. The parameter named `match` takes the match itself, and that comes before
everything else. A parameter that asks for a model takes the record that the model makes of all
parameters of the match. Every other parameter takes the text that the match has under its name,
if it has one.

All models are read before the view is called, in the order of the parameters, and the first one
that cannot be read ends the attempt.
-/

namespace UriRouting

/-- The name of the parameter that takes the match itself (`MATCH_PARAM`). -/
def matchName : String := "match"

/-- What the parameters of a view take from a match (`_ViewMeta`). -/
structure Plan where
  view : View
  wantsMatch : Bool
  models : List (String × Model)
  names : List String

def Plan.make (view : View) (parameters : List Parameter) (hints : Params Hint) : Plan :=
  let names := parameters.map Parameter.name
  let wanted name := (hints.get? name).bind Hint.model?
  { view
    wantsMatch := names.contains matchName
    models := names.filterMap fun name => (wanted name).map (name, ·)
    names := names.filter fun name => name != matchName && (wanted name).isNone }

/-- The plan for a view; it takes a signature, and hints that all mean something
(`_ViewMeta.__init__`). -/
def View.plan (view : View) : Except Refusal Plan := do
  let parameters ← view.signature
  let hints ← view.hints
  return Plan.make view parameters hints

section

variable (validator : Validator)

def readModel (params : Params String) (asked : String × Model) :
    Except CallFailure (String × Value) :=
  match validator asked.2 params with
  | .ok record => .ok (asked.1, .record record)
  | .error fault => .error (.invalidModel fault)

/-- The values that a match gives to the parameters of a view, by name. -/
def Plan.keywords (plan : Plan) (found : Match) : Except CallFailure (Params Value) := do
  let params := found.allParams
  let records ← plan.models.mapM (readModel validator params)
  let texts := plan.names.filterMap fun name => (params.get? name).map fun text =>
    (name, .scalar (.text text))
  let itself := if plan.wantsMatch then [(matchName, .found found)] else []
  return .ofList (texts ++ records ++ itself)

/-- Calls the view with what a match gives it (`_ViewMeta.call`). -/
def Plan.call (plan : Plan) (found : Match) : Except CallFailure Outcome := do
  let keywords ← plan.keywords validator found
  plan.view.call keywords

end

end UriRouting
