import UriRouting.Document
import UriRouting.Text.Quoted

/-! # What commands report

A command ends with an exit code and with text on two channels: results on the one, complaints on
the other. A complaint goes with exit code one, and there is no result beside it.
-/

namespace UriRouting.Command

/-- How a command ended. -/
structure Report where
  exitCode : Nat
  output : String
  complaint : String
  deriving Repr, DecidableEq

def Report.result (lines : List String) : Report :=
  ⟨0, String.join (lines.map (· ++ "\n")), ""⟩

def Report.complain (line : String) : Report :=
  ⟨1, "", line ++ "\n"⟩

/-- A route made of the pattern alone (`_route_for`). Commands make no more than one. -/
def soleRoute (pattern : String) : Route :=
  .ofPattern 1 pattern

/-- Matches a URI against a pattern and shows what it says (`match`). -/
def runMatch (pattern uri : String) : Except Utf8.Fault Report :=
  match (soleRoute pattern).matchUri uri with
  | .error fault => .error fault
  | .ok none => .ok (.complain "No match")
  | .ok (some found) => .ok (.result [(Document.ofMatch found).render])

/-- The query parameter that an option gives, or the option itself if it gives none
(`_parse_query_options`). -/
def readQuery (query : String) : Except String (String × String) :=
  match Text.cut '=' query.toList with
  | (_, none) => .error query
  | (name, some value) => .ok (String.ofList name, String.ofList value)

/-- Builds a URI (`build`). Without query parameters the values are put in by position; with some
they are put in by name. -/
def runBuild (pattern : String) (values queries : List String) : Report :=
  let route := soleRoute pattern
  match queries.mapM readQuery with
  | .error query =>
    .complain ("Error: query option " ++ Text.quoted query ++ " must look like key=value.")
  | .ok entries =>
    match route.build values with
    | .error mismatch =>
      .complain ("Error: " ++ Text.quoted pattern ++ " takes " ++ toString mismatch.arity ++
        " value(s), got " ++ toString mismatch.given ++ ".")
    | .ok uri =>
      let queryParams := Params.ofList entries
      if queryParams.isEmpty then .result [uri]
      else .result [route.buildWith (.ofList (route.placeholders.zip values)) queryParams]

end UriRouting.Command
