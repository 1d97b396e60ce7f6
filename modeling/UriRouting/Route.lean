import UriRouting.Query
import UriRouting.Template.Capture
import UriRouting.Text.Quoted
import UriRouting.Text.Replace

/-! # Routes

A route is a pattern that was declared with the number of its placeholders. A declaration that
counts them wrongly is refused, so a route always has as many placeholders as its declaration says.

Routes are compared by declaration and not by pattern: two declarations of one pattern make two
routes.

A URI is built by writing values into the pattern. The placeholders are filled one after the other
by replacing their text wherever it occurs, and a value is encoded before it is put in, so no value
can bring in a placeholder of its own.

A route whose form of declaration fixes the number of its placeholders has that number of values as
a form of building, too, and one without placeholders can be used as a URI by itself. A route of the
general form has neither, also when it happens to have no placeholders.
-/

namespace UriRouting

/-- How a route is declared. -/
inductive RouteForm where
  | general
  /-- With a number of placeholders that the form of declaration fixes: none, or one to four. -/
  | fixed
  deriving Repr, DecidableEq

/-- A declared pattern. -/
structure Route where
  /-- Tells this declaration from all others. -/
  serial : Nat
  form : RouteForm
  pattern : String
  deriving Repr, DecidableEq

structure ArityMismatch where
  pattern : String
  found : Nat
  declared : Int
  deriving Repr, DecidableEq

def ArityMismatch.message (mismatch : ArityMismatch) : String :=
  "The route " ++ Text.quoted mismatch.pattern ++ " has [" ++ toString mismatch.found ++
    "] route-params but should have [" ++ toString mismatch.declared ++ "]"

structure ValueCountMismatch where
  pattern : String
  arity : Nat
  given : Nat
  deriving Repr, DecidableEq

def ValueCountMismatch.message (mismatch : ValueCountMismatch) : String :=
  "Route " ++ Text.quoted mismatch.pattern ++ " takes " ++ toString mismatch.arity ++
    " route-params, got " ++ toString mismatch.given

/-- Why a route could not be built in its fixed form. -/
inductive FixedFailure where
  | general
  | misfit
  deriving Repr, DecidableEq

/-- The names of the placeholders of a pattern, in order, repeated ones repeated
(`parse_placeholders`). -/
def placeholderNames (pattern : String) : List String :=
  (Template.ofChars pattern.toList).names.map String.ofList

namespace Route

def template (route : Route) : Template :=
  Template.ofChars route.pattern.toList

def placeholders (route : Route) : List String :=
  placeholderNames route.pattern

def arity (route : Route) : Nat :=
  route.placeholders.length

/-- Declares a pattern with the number of its placeholders (`Route.__init__`). -/
def declare (serial : Nat) (form : RouteForm) (pattern : String) (declared : Int) :
    Except ArityMismatch Route :=
  let found := (placeholderNames pattern).length
  if (found : Int) = declared then .ok ⟨serial, form, pattern⟩
  else .error ⟨pattern, found, declared⟩

/-- Declares a pattern without placeholders (`Static`). The forms with placeholders follow (`Route1`
to `Route4`). -/
def static (serial : Nat) (pattern : String) : Except ArityMismatch Route :=
  declare serial .fixed pattern 0

def one (serial : Nat) (pattern : String) : Except ArityMismatch Route :=
  declare serial .fixed pattern 1

def two (serial : Nat) (pattern : String) : Except ArityMismatch Route :=
  declare serial .fixed pattern 2

def three (serial : Nat) (pattern : String) : Except ArityMismatch Route :=
  declare serial .fixed pattern 3

def four (serial : Nat) (pattern : String) : Except ArityMismatch Route :=
  declare serial .fixed pattern 4

/-- Declares a pattern with as many placeholders as it has. -/
def ofPattern (serial : Nat) (pattern : String) : Route :=
  ⟨serial, .general, pattern⟩

/-- The route of a match that no route made (`DEFAULT_ROUTE`). -/
def blank : Route := ⟨0, .fixed, ""⟩

example : static 0 "" = .ok blank := by rfl

/-- A route as it was declared (`Route.__repr__`). -/
def label (route : Route) : String :=
  let pattern := Text.quoted route.pattern
  match route.form, route.arity with
  | .general, n => "Route(" ++ pattern ++ ", " ++ toString n ++ ")"
  | .fixed, 0 => "Static(" ++ pattern ++ ")"
  | .fixed, n => "Route" ++ toString n ++ "(" ++ pattern ++ ")"

def fragmentMark : Char := '#'

/-- A URI without the fragment mark in front of it, if there is one. -/
def dropMark (uri : String) : String :=
  match uri.toList with
  | c :: rest => if c = fragmentMark then String.ofList rest else uri
  | [] => uri

def token (name : List Char) : List Char :=
  '{' :: name ++ ['}']

/-- Writes a value into every placeholder of the given name (`_replace_placeholder`). -/
def fill (uri : List Char) (entry : String × String) : List Char :=
  Text.replace (token entry.1.toList) (Percent.encodeChars entry.2.toList) uri

/-- The pattern behind the fragment mark, with the given values written in, one after the other. -/
def fillAll (route : Route) (entries : List (String × String)) : List Char :=
  entries.foldl fill (fragmentMark :: route.pattern.toList)

/-- The URI that has the given values in the placeholders, in order (`Route.build_uri`). -/
def build (route : Route) (values : List String) : Except ValueCountMismatch String :=
  if values.length = route.arity then
    .ok (String.ofList (route.fillAll (route.placeholders.zip values)))
  else .error ⟨route.pattern, route.arity, values.length⟩

/-- The URI of as many values as the form of declaration fixes (`Static.build`, `Route1.build` and
so on). -/
def buildFixed (route : Route) (values : List String) : Except FixedFailure String :=
  match route.form, route.build values with
  | .general, _ => .error .general
  | .fixed, .ok uri => .ok uri
  | .fixed, .error _ => .error .misfit

/-- The URI that a route is by itself, if its form fixes that it has no placeholders
(`Static.__call__`). -/
def uri? (route : Route) : Option String :=
  (route.buildFixed []).toOption

/-- The URI that has the given values in the placeholders of these names, and the given query
(`Route.build_uri_with`). A placeholder that gets no value stays as it is. -/
def buildWith (route : Route) (routeParams queryParams : Params String) : String :=
  let path := route.fillAll routeParams.entries
  if queryParams.isEmpty then String.ofList path
  else String.ofList (path ++ '?' :: Query.renderChars queryParams)

end Route

end UriRouting
