import UriRouting.Utf8

/-! # Percent-encoding of one component of a URI

Encoding writes a text so that it can stand anywhere in a URI without being taken for structure:
the unreserved characters stay, and each byte of any other one becomes a percent sign and two
upper-case hexadecimal digits.

Decoding is more liberal. Hexadecimal digits may have either case, a percent sign that begins no
escape stands for itself, and characters that should have been escaped are taken as they are. The
bytes must be UTF-8, though, and that is judged for each run of ASCII characters by itself: an
escaped character cannot go on beyond a character that stands there unescaped.
-/

namespace UriRouting.Percent

/-- Whether a character stays as it is: an ASCII letter or digit, or one of `_UNRESERVED_MARKS`. -/
def isUnreserved (c : Char) : Bool :=
  c.isAlphanum || ['-', '_', '.', '!', '~', '*', '\'', '(', ')'].contains c

def hexDigit (n : Nat) : Char :=
  if n < 10 then Char.ofNat (0x30 + n) else Char.ofNat (0x37 + n)

/-- The number that a hexadecimal digit of either case stands for. -/
def hexValue? (c : Char) : Option Nat :=
  let n := c.toNat
  if 0x30 ≤ n ∧ n ≤ 0x39 then some (n - 0x30)
  else if 0x41 ≤ n ∧ n ≤ 0x46 then some (n - 0x37)
  else if 0x61 ≤ n ∧ n ≤ 0x66 then some (n - 0x57)
  else none

/-- A percent sign and the two digits of a byte. -/
def escape (byte : UInt8) : List Char :=
  ['%', hexDigit (byte.toNat / 16), hexDigit (byte.toNat % 16)]

def encodeChar (c : Char) : List Char :=
  if isUnreserved c then [c] else (Utf8.encodeChar c).flatMap escape

def encodeChars (text : List Char) : List Char :=
  text.flatMap encodeChar

/-- A text as it is written in a component (`encode_uri_component`). -/
def encode (text : String) : String :=
  String.ofList (encodeChars text.toList)

def escaped? (high low : Char) : Option UInt8 :=
  match hexValue? high, hexValue? low with
  | some h, some l => some (.ofNat (16 * h + l))
  | _, _ => none

/-- The bytes of a run of ASCII characters: one for each escape and one for each other
character. -/
def unescape : List Char → List UInt8
  | '%' :: high :: low :: rest =>
    match escaped? high low with
    | some byte => byte :: unescape rest
    | none => 0x25 :: unescape (high :: low :: rest)
  | c :: rest => .ofNat c.toNat :: unescape rest
  | [] => []

def isAscii (c : Char) : Bool :=
  c.toNat < 0x80

/-- A longest run of characters of one sort. -/
inductive Run where
  | ascii (text : List Char)
  | other (text : List Char)
  deriving Repr, DecidableEq

def Run.cons (c : Char) (runs : List Run) : List Run :=
  if isAscii c then
    match runs with
    | .ascii text :: later => .ascii (c :: text) :: later
    | _ => .ascii [c] :: runs
  else
    match runs with
    | .other text :: later => .other (c :: text) :: later
    | _ => .other [c] :: runs

def Run.split (text : List Char) : List Run :=
  text.foldr Run.cons []

def Run.chars : Run → List Char
  | .ascii text | .other text => text

theorem Run.flatMap_chars_cons (c : Char) (runs : List Run) :
    (Run.cons c runs).flatMap Run.chars = c :: runs.flatMap Run.chars := by
  unfold Run.cons
  split <;> split <;> simp [Run.chars]

/-- Nothing of a text is lost when it is divided into runs. -/
theorem Run.flatMap_chars_split (text : List Char) :
    (Run.split text).flatMap Run.chars = text := by
  induction text with
  | nil => rfl
  | cons c rest ih =>
    rw [Run.split, List.foldr_cons, Run.flatMap_chars_cons]
    exact congrArg (c :: ·) ih

def Run.decode : Run → Except Utf8.Fault (List Char)
  | .ascii text => Utf8.decode (unescape text)
  | .other text => .ok text

/-- The first run that is faulty gives the fault, with its bytes counted from the beginning of that
run. -/
def decodeChars (text : List Char) : Except Utf8.Fault (List Char) :=
  ((Run.split text).mapM Run.decode).map List.flatten

/-- The text that a component stands for (`decode_uri_component`). -/
def decode (text : String) : Except Utf8.Fault String :=
  (decodeChars text.toList).map String.ofList

end UriRouting.Percent
