import UriRouting.Router

/-! # What a command finds around it

To list the routes of a router is to run code that is not known: a module is imported, asked for its
attributes and for a list of them, and a view is asked how it is shown. Every time something may be
raised instead. It matters whether that says that an attribute is missing, whether it is an exception
or the wish to leave the program, and what becomes of the program if it is not caught.

A module may answer by functions of its own, so that its answers depend on what it has been asked
before.
-/

namespace UriRouting.Command

inductive RaisedKind where
  /-- An attribute is missing (`AttributeError`). -/
  | missing
  /-- Any other exception (`Exception`). -/
  | exception
  /-- What is no exception, such as the wish to leave the program. -/
  | departure
  deriving Repr, DecidableEq

structure Raised where
  kind : RaisedKind
  text : String
  /-- How the program ends if nobody catches it. -/
  exitCode : Nat
  deriving Repr, DecidableEq

inductive Attribute where
  | router (found : Router)
  | other
  deriving DecidableEq

def Attribute.router? : Attribute → Option Router
  | .router found => some found
  | .other => none

/-- A module that has been imported. Its answers may depend on the names it was asked for before. -/
structure Module where
  ask : (asked : List String) → (name : String) → Except Raised Attribute
  names : (asked : List String) → Except Raised (List String)

inductive Channel where
  | results
  | complaints
  deriving Repr, DecidableEq

/-- What a command finds around it. -/
structure World where
  /-- Whether there is something at a path (`Path.exists`). -/
  isThere : (path : String) → Except Raised Bool
  /-- The directory of what is at a path (`Path.resolve().parent`). -/
  directory : (path : String) → Except Raised String
  /-- The directories in which modules are searched for (`sys.path`). -/
  searchPath : List String
  /-- Imports a module by its name (`importlib.import_module`). -/
  load : (searchPath : List String) → (name : String) → Except Raised Module
  label : View → Except Raised String
  /-- The text that arrives when a line is written (`typer.echo`). -/
  echo : Channel → (line : String) → Except Raised String

/-- How a command ended. -/
structure Ending where
  exitCode : Nat
  output : String
  complaint : String
  /-- What was raised and not caught. -/
  escaped? : Option Raised
  deriving Repr, DecidableEq

/-- The ending with something that is not caught, after this much has been written. -/
def Ending.escape (output : String) (raised : Raised) : Ending :=
  ⟨raised.exitCode, output, "", some raised⟩

def World.complain (world : World) (line : String) : Ending :=
  match world.echo .complaints line with
  | .ok text => ⟨1, "", text, none⟩
  | .error raised => .escape "" raised

end UriRouting.Command
