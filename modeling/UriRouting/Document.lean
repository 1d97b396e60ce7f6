import UriRouting.Match

/-! # JSON documents

The texts and objects in which a match is shown. A document is written over several lines, with
two spaces for each level, and in visible ASCII only: any other character is escaped, as one or
two units of UTF-16.
-/

namespace UriRouting

/-- A JSON document that holds texts alone. -/
inductive Document where
  | text (value : String)
  | object (members : List (String × Document))

namespace Document

/-- The units of a character in UTF-16. -/
def units (c : Char) : List Nat :=
  let n := c.toNat
  if n < 0x10000 then [n]
  else [0xD800 + (n - 0x10000) / 0x400, 0xDC00 + (n - 0x10000) % 0x400]

def escapeChar (c : Char) : List Char :=
  if c = '"' then ['\\', '"']
  else if c = '\\' then ['\\', '\\']
  else if c = '\n' then ['\\', 'n']
  else if c = '\r' then ['\\', 'r']
  else if c = '\t' then ['\\', 't']
  else if c = '\x08' then ['\\', 'b']
  else if c = '\x0c' then ['\\', 'f']
  else if 0x20 ≤ c.toNat ∧ c.toNat ≤ 0x7E then [c]
  else (units c).flatMap fun unit => '\\' :: 'u' :: Text.hexDigits 4 unit

/-- A text between quotes. -/
def renderText (value : String) : String :=
  String.ofList ('"' :: value.toList.flatMap escapeChar ++ ['"'])

def indent (depth : Nat) : String :=
  String.ofList (List.replicate (2 * depth) ' ')

mutual

/-- A document whose first line begins so many levels deep. -/
def renderAt (depth : Nat) : Document → String
  | .text value => renderText value
  | .object [] => "\x7b\x7d"
  | .object (member :: members) =>
    "\x7b\n" ++ ",\n".intercalate (renderMembers (depth + 1) (member :: members)) ++ "\n" ++
      indent depth ++ "\x7d"

def renderMembers (depth : Nat) : List (String × Document) → List String
  | [] => []
  | (name, value) :: members =>
    (indent depth ++ renderText name ++ ": " ++ renderAt depth value) :: renderMembers depth members

end

def render (document : Document) : String :=
  document.renderAt 0

def ofParams (params : Params String) : Document :=
  .object (params.entries.map fun (name, value) => (name, .text value))

/-- A match as an object: its pattern, and its parameters by where they come from and together. -/
def ofMatch (found : Match) : Document :=
  .object [("pattern", .text found.pattern), ("route_params", ofParams found.routeParams),
    ("query_params", ofParams found.queryParams), ("all_params", ofParams found.allParams)]

end Document

end UriRouting
