import UriRouting.Text.LetterCase

/-! # Title case

A letter that follows no letter starts a word and takes title case; a letter that follows a letter
takes lower case. So `user2name` has two words, and `camelCase` has one.

One letter looks further: the Greek capital sigma has two lower forms, and takes the final one at
the end of a word. The end of a word is where some letter stands before it and none after it, with
the characters that only decorate letters (accents, apostrophes) passed over on both sides.
-/

namespace UriRouting.Text

/-- Whether the nearest character that is not passed over is a letter. -/
def meetsLetter (neighbours : List Char) : Bool :=
  match neighbours.find? (!isCaseIgnorable ·) with
  | some c => isCased c
  | none => false

/-- The lower case of a character. `before` holds the characters to its left, nearest first, and
`after` those to its right. -/
def lowered (before : List Char) (c : Char) (after : List Char) : List Char :=
  if c = 'Σ' then
    if meetsLetter before && !meetsLetter after then ['ς'] else ['σ']
  else lowerMap.apply c

def titleFrom : (before : List Char) → List Char → List Char
  | _, [] => []
  | before, c :: after =>
    let insideWord := before.head?.any isCased
    (if insideWord then lowered before c after else titleMap.apply c) ++
      titleFrom (c :: before) after

/-- A text with the first letter of every word in title case and the others in lower case. -/
def title (text : String) : String :=
  String.ofList (titleFrom [] text.toList)

end UriRouting.Text
