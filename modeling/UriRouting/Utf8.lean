import UriRouting.Text.Quoted

/-! # UTF-8

A character is one to four bytes. The first byte says how many follow, and for some first bytes
the second one is confined further, which keeps out the spellings that are too long, the
surrogates, and what lies beyond the last character. So a reader that knows the first byte can
tell at each later byte whether the sequence can still become a character, and a fault is found at
the earliest byte where it shows.
-/

namespace UriRouting.Utf8

def encodeChar (c : Char) : List UInt8 :=
  let n := c.toNat
  if n < 0x80 then [.ofNat n]
  else if n < 0x800 then [.ofNat (0xC0 + n / 0x40), .ofNat (0x80 + n % 0x40)]
  else if n < 0x10000 then
    [.ofNat (0xE0 + n / 0x1000), .ofNat (0x80 + n / 0x40 % 0x40), .ofNat (0x80 + n % 0x40)]
  else
    [.ofNat (0xF0 + n / 0x40000), .ofNat (0x80 + n / 0x1000 % 0x40),
      .ofNat (0x80 + n / 0x40 % 0x40), .ofNat (0x80 + n % 0x40)]

def encode (text : List Char) : List UInt8 :=
  text.flatMap encodeChar

/-- What the bytes read so far still ask for. -/
structure Demand where
  /-- The bits of the character that have been read. -/
  bits : Nat
  low : Nat
  high : Nat
  /-- How many bytes come after the next one. -/
  later : Nat
  deriving Repr, DecidableEq

inductive Lead where
  | single (c : Char)
  /-- The byte begins a longer sequence. -/
  | opens (demand : Demand)
  | invalid
  deriving Repr, DecidableEq

def lead (byte : UInt8) : Lead :=
  let n := byte.toNat
  if n < 0x80 then .single (Char.ofNat n)
  else if n < 0xC2 then .invalid
  else if n < 0xE0 then .opens ⟨n - 0xC0, 0x80, 0xBF, 0⟩
  else if n < 0xF0 then
    .opens ⟨n - 0xE0, if n = 0xE0 then 0xA0 else 0x80, if n = 0xED then 0x9F else 0xBF, 1⟩
  else if n < 0xF5 then
    .opens ⟨n - 0xF0, if n = 0xF0 then 0x90 else 0x80, if n = 0xF4 then 0x8F else 0xBF, 2⟩
  else .invalid

inductive Continuation where
  | completes (c : Char)
  | goesOn (demand : Demand)
  | refused
  deriving Repr, DecidableEq

def Demand.read (demand : Demand) (byte : UInt8) : Continuation :=
  let n := byte.toNat
  if demand.low ≤ n ∧ n ≤ demand.high then
    let bits := demand.bits * 0x40 + (n - 0x80)
    match demand.later with
    | 0 => .completes (Char.ofNat bits)
    | later + 1 => .goesOn ⟨bits, 0x80, 0xBF, later⟩
  else .refused

inductive Reason where
  | invalidStart
  | invalidContinuation
  | unexpectedEnd
  deriving Repr, DecidableEq

def Reason.text : Reason → String
  | .invalidStart => "invalid start byte"
  | .invalidContinuation => "invalid continuation byte"
  | .unexpectedEnd => "unexpected end of data"

/-- The place of the first bytes that are no character, and why. -/
structure Fault where
  first : Nat
  last : Nat
  byte : UInt8
  reason : Reason
  deriving Repr, DecidableEq

def Fault.message (fault : Fault) : String :=
  let place :=
    if fault.first = fault.last then
      "byte 0x" ++ String.ofList (Text.hexDigits 2 fault.byte.toNat) ++ " in position " ++
        toString fault.first
    else "bytes in position " ++ toString fault.first ++ "-" ++ toString fault.last
  "'utf-8' codec can't decode " ++ place ++ ": " ++ fault.reason.text

/-- A character that has begun but is not complete. -/
structure Opened where
  start : Nat
  lead : UInt8
  demand : Demand
  deriving Repr, DecidableEq

/-- Reads bytes of which the first one has the given position, in the middle of a character if one
is open. -/
def decodeFrom : (position : Nat) → Option Opened → List UInt8 → Except Fault (List Char)
  | _, none, [] => .ok []
  | position, some seq, [] => .error ⟨seq.start, position - 1, seq.lead, .unexpectedEnd⟩
  | position, none, byte :: rest =>
    match lead byte with
    | .single c => (decodeFrom (position + 1) none rest).map (c :: ·)
    | .opens demand => decodeFrom (position + 1) (some ⟨position, byte, demand⟩) rest
    | .invalid => .error ⟨position, position, byte, .invalidStart⟩
  | position, some seq, byte :: rest =>
    match seq.demand.read byte with
    | .completes c => (decodeFrom (position + 1) none rest).map (c :: ·)
    | .goesOn demand => decodeFrom (position + 1) (some { seq with demand }) rest
    | .refused => .error ⟨seq.start, position - 1, seq.lead, .invalidContinuation⟩

/-- The text that bytes spell, or the first fault. -/
def decode (bytes : List UInt8) : Except Fault (List Char) :=
  decodeFrom 0 none bytes

end UriRouting.Utf8
