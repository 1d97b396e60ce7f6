import UriRouting.Params
import UriRouting.Percent
import UriRouting.Text.Split

/-! # Query parameters

The query of a URI is a list of pieces between ampersands. A piece is a name and a value around
its first equals sign; a piece without one is a name whose value is empty. Values are
percent-encoded and names are not, so a name that holds an ampersand or an equals sign does not
survive writing and reading.
-/

namespace UriRouting.Query

def readPiece (piece : List Char) : Except Utf8.Fault (String × String) :=
  match Text.cut '=' piece with
  | (name, none) => .ok (String.ofList name, "")
  | (name, some value) => do
    let value ← Percent.decodeChars value
    return (String.ofList name, String.ofList value)

def parseChars (query : List Char) : Except Utf8.Fault (Params String) :=
  match query with
  | [] => .ok .empty
  | _ => ((Text.pieces '&' query).mapM readPiece).map Params.ofList

/-- The parameters that a query holds (`parse_query`). The empty query holds none, though it has one
(empty) piece. -/
def parse (query : String) : Except Utf8.Fault (Params String) :=
  parseChars query.toList

/-- A name is written raw, as `build_uri_with` does. -/
def renderEntry (entry : String × String) : List Char :=
  entry.1.toList ++ '=' :: Percent.encodeChars entry.2.toList

def renderChars (params : Params String) : List Char :=
  Text.join '&' (params.entries.map renderEntry)

def render (params : Params String) : String :=
  String.ofList (renderChars params)

end UriRouting.Query
