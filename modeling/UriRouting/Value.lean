import UriRouting.Match
import UriRouting.Model

/-! # Values that views receive

A view is called with texts taken from the URI, with records that a model made of them, with the
match itself, and with the values that the program gives: defaults, and what was bound beforehand.
-/

namespace UriRouting

/-- A text, or any other value of the program, told from the others by how it is written. -/
inductive Scalar where
  | text (value : String)
  | other (written : String)
  deriving Repr, DecidableEq

/-- A value that a view can be given. -/
inductive Value where
  | scalar (value : Scalar)
  | record (value : Record)
  | found (value : Match)
  deriving DecidableEq

/-- What a parameter of a view holds in a call. -/
inductive Argument where
  | single (value : Value)
  | gathered (values : List Value)
  | collected (values : Params Value)
  deriving DecidableEq

end UriRouting
