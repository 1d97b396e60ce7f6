import UriRouting.Route

/-! # Matches

A match is what a URI says to the route that accepts it: the texts in the placeholders, and the
query. A URI that does not have the shape of the pattern is no match, which is no error; a URI that
has the shape but whose texts cannot be decoded is one.
-/

namespace UriRouting

/-- What a URI says to a route (`Match`). -/
structure Match where
  route : Route
  routeParams : Params String
  queryParams : Params String
  deriving DecidableEq

namespace Match

/-- The match that stands for no match (`Match.default`). -/
def blank : Match := ⟨.blank, .empty, .empty⟩

instance : Inhabited Match := ⟨blank⟩

def pattern (found : Match) : String :=
  found.route.pattern

/-- All parameters together; the query decides where both have a name (`Match.all_params`). -/
def allParams (found : Match) : Params String :=
  found.routeParams.overlay found.queryParams

/-- The text in a placeholder, or the given one if there is no such placeholder (`Match.param`). -/
def param (found : Match) (name : String) (fallback : String) : String :=
  found.routeParams.getD name fallback

/-- The match with another query: the two given maps in one, without the names that have no value
there (`Match.with_query_params`). -/
def withQueryParams (found : Match) (params named : Params (Option String)) : Match :=
  { found with queryParams := (params.overlay named).filterMap id }

def build (found : Match) : String :=
  found.route.buildWith found.routeParams found.queryParams

/-- Whether two matches are of the same route and have the same parameters, in whatever order. -/
def agrees (a b : Match) : Bool :=
  a.route.serial == b.route.serial && a.routeParams.agrees b.routeParams &&
    a.queryParams.agrees b.queryParams

end Match

/-- The text that a capture stands for. -/
def decodeCapture (capture : List Char) : Except Utf8.Fault String :=
  (Percent.decodeChars capture).map String.ofList

/-- What a URI says to a route (`Route.match`). The path, which ends at the first question mark, must
match the whole pattern, and nothing is decoded before it does. Then the captures are decoded from
left to right, and after them the query. -/
def Route.matchUri (route : Route) (uri : String) : Except Utf8.Fault (Option Match) :=
  let (path, query) := Text.cut '?' uri.toList
  match route.template.capture path with
  | none => .ok none
  | some captures => do
    let values ← captures.mapM decodeCapture
    let queryParams ← Query.parseChars (query.getD [])
    return some ⟨route, .ofList (route.placeholders.zip values), queryParams⟩

end UriRouting
