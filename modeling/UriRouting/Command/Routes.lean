import UriRouting.Command.Module
import UriRouting.Text.Quoted

/-! # Listing routes

A target with a colon names a module and an attribute of it; any other target is the path of a file,
of whose module the router is searched. The routes of the router are listed line by line, so a
failure leaves the lines before it.
-/

namespace UriRouting.Command

def listing (mount : Mount) (label : String) : String :=
  let pattern := if mount.route.pattern.isEmpty then "(empty)" else mount.route.pattern
  pattern ++ "\t" ++ toString mount.route.arity ++ "\t" ++ label

namespace World

variable (world : World)

/-- Imports a module (`_import_target`). -/
def importModule (searchPath : List String) (name : String) : Except Ending Module :=
  match world.load searchPath name with
  | .ok mod => .ok mod
  | .error raised =>
    if raised.kind = .departure then .error (.escape "" raised)
    else .error (world.complain
      ("Error importing " ++ Text.quoted name ++ ": " ++ raised.text))

def settle (line : String) : Except Raised (Option Router) → Except Ending Router
  | .error raised => .error (.escape "" raised)
  | .ok (some router) => .ok router
  | .ok none => .error (world.complain line)

/-- The router that an attribute of a module is. -/
def resolveAttribute (target name holder : String) : Except Ending Router :=
  match world.importModule world.searchPath name with
  | .error ending => .error ending
  | .ok mod =>
    world.settle ("Error: " ++ Text.quoted target ++ " is not a Router instance.")
      (mod.routerNamed [] holder)

/-- Where modules are searched for when one is in a directory. -/
def searchPathWith (directory : String) : List String :=
  if world.searchPath.contains directory then world.searchPath
  else directory :: world.searchPath

/-- The router of the module that a file holds. -/
def resolveFile (target : String) : Except Ending Router :=
  match world.isThere target with
  | .error raised => .error (.escape "" raised)
  | .ok false => .error (world.complain ("Error: file " ++ Text.quoted target ++ " not found."))
  | .ok true =>
    match world.directory target with
    | .error raised => .error (.escape "" raised)
    | .ok directory =>
      match world.importModule (world.searchPathWith directory) (stem target) with
      | .error ending => .error ending
      | .ok mod =>
        world.settle ("Error: no Router instance found in " ++ Text.quoted target ++
          ". Provide an explicit target, e.g. routes:router") mod.findRouter

/-- The router that a target means (`_resolve_cli_target`). -/
def resolveTarget (target : String) : Except Ending Router :=
  match Text.cut ':' target.toList with
  | (name, some holder) =>
    world.resolveAttribute target (String.ofList name) (String.ofList holder)
  | (_, none) => world.resolveFile target

def row (mount : Mount) : Except Raised String :=
  match world.label mount.view with
  | .error raised => .error raised
  | .ok label => world.echo .results (listing mount label)

/-- Writes the lines of mounts one after the other: what has been written, and what was raised. -/
def rows : List Mount → String × Option Raised
  | [] => ("", none)
  | mount :: later =>
    match world.row mount with
    | .error raised => ("", some raised)
    | .ok line => (line ++ (rows later).1, (rows later).2)

/-- Lists the routes of the router that a target means (`routes`). -/
def routes (target : String) : Ending :=
  match world.resolveTarget target with
  | .error ending => ending
  | .ok router =>
    match world.rows router.mounts with
    | (output, some raised) => .escape output raised
    | (output, none) => ⟨0, output, "", none⟩

end World

end UriRouting.Command
