import UriRouting.Command.World
import UriRouting.Text.Split

/-! # The router of a module

A module is asked for two names first, and then for all names that it lists and that are not private,
in the order of their code points. That it does not have a name is no failure, but whatever else is
raised ends the search.
-/

namespace UriRouting.Command

/-- A name without what follows its last point, unless the point begins or ends it. -/
def dropSuffix (name : List Char) : List Char :=
  match Text.cut '.' name.reverse with
  | (suffix, some (c :: stem)) => if suffix.isEmpty then name else (c :: stem).reverse
  | _ => name

/-- The last name of a path without its suffix (`Path.stem`). -/
def stem (path : String) : String :=
  let names := (Text.pieces '/' path.toList).filter fun name => name ≠ [] ∧ name ≠ ['.']
  String.ofList (dropSuffix (names.getLast?.getD []))

def isPrivate (name : String) : Bool :=
  name.toList.head? = some '_'

namespace Module

variable (mod : Module)

def routerNamed (asked : List String) (name : String) : Except Raised (Option Router) :=
  match mod.ask asked name with
  | .ok value => .ok value.router?
  | .error raised => if raised.kind = .missing then .ok none else .error raised

/-- The first router that a module has under some names, of which it is asked for one after the
other. -/
def firstRouter : (asked : List String) → List String → Except Raised (Option Router)
  | _, [] => .ok none
  | asked, name :: later =>
    match mod.routerNamed asked name with
    | .error raised => .error raised
    | .ok (some router) => .ok (some router)
    | .ok none => firstRouter (asked ++ [name]) later

def usualNames : List String := ["router", "routes"]

/-- The names that a module lists, in order, without the private ones. -/
def publicNames (asked : List String) : Except Raised (List String) :=
  (mod.names asked).map fun names => (names.mergeSort (· ≤ ·)).filter (!isPrivate ·)

/-- The router of a module (`_find_router`). -/
def findRouter : Except Raised (Option Router) :=
  match mod.firstRouter [] usualNames with
  | .error raised => .error raised
  | .ok (some router) => .ok (some router)
  | .ok none =>
    match mod.publicNames usualNames with
    | .error raised => .error raised
    | .ok names => mod.firstRouter usualNames names

end Module

end UriRouting.Command
