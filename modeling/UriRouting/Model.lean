import UriRouting.Params

/-! # Models

A view may ask for the record that a model makes of the parameters of a URI. Making records is not a
part of routing: it is left to a validator, and nothing is known of what it does. What it makes is
passed on as it is.
-/

namespace UriRouting

/-- A kind of record (a subclass of `BaseModel`, or `BaseModel` itself). -/
structure Model where
  /-- Tells this model from all others. -/
  serial : Nat
  name : String
  fields : List String
  deriving Repr, DecidableEq

/-- What a model makes of parameters. Nothing in routing looks inside. -/
structure Record where
  model : Model
  content : String
  deriving Repr, DecidableEq

/-- Why a model makes nothing of parameters. -/
structure ModelFault where
  model : Model
  report : String
  deriving Repr, DecidableEq

/-- What makes records (`model_validate`). -/
abbrev Validator := Model → Params String → Except ModelFault Record

/-- Whether a parameter that a model does not know changes nothing. -/
def Validator.IgnoresUnknown (validator : Validator) : Prop :=
  ∀ (model : Model) (params : Params String) (name text : String), name ∉ model.fields →
    validator model (params.insert name text) = validator model params

end UriRouting
