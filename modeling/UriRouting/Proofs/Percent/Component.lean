import Mathlib
import UriRouting.Proofs.Percent.RoundTrip

/-! # The form of an encoded text

Encoding writes unreserved characters and escapes with upper-case digits. Nothing in this can be
taken for the structure of a URI, of a query or of a pattern, wherever it is put.

The form says nothing about the bytes that the escapes stand for, so there are texts of this form
that encoding never writes.
-/

namespace UriRouting.Percent

def isUpperHexDigit (c : Char) : Bool :=
  c.isDigit || ('A' ≤ c && c ≤ 'F')

inductive IsComponent : List Char → Prop where
  | nil : IsComponent []
  | unreserved {c : Char} {rest : List Char} :
    isUnreserved c = true → IsComponent rest → IsComponent (c :: rest)
  | escape {high low : Char} {rest : List Char} :
    isUpperHexDigit high = true → isUpperHexDigit low = true → IsComponent rest →
      IsComponent ('%' :: high :: low :: rest)

/-- The characters that show the structure of a URI, of a query or of a pattern. -/
def structureMarks : List Char :=
  ['/', '?', '#', '&', '=', '{', '}']

theorem isUpperHexDigit_hexDigit {n : Nat} (small : n < 16) :
    isUpperHexDigit (hexDigit n) = true := by
  interval_cases n <;> decide

theorem isUnreserved_of_isUpperHexDigit {c : Char} (digit : isUpperHexDigit c = true) :
    isUnreserved c = true := by
  have alphanumeric : c.isAlphanum = true := by
    simp only [isUpperHexDigit, Bool.or_eq_true, Bool.and_eq_true, decide_eq_true_eq,
      Char.le_def] at digit
    have last : 'F'.val ≤ 'Z'.val := by decide
    simp only [Char.isAlphanum, Char.isAlpha, Char.isUpper, Bool.or_eq_true, decide_eq_true_eq,
      ge_iff_le]
    rcases digit with decimal | ⟨low, high⟩
    · exact .inr decimal
    · exact .inl (.inl ⟨low, UInt32.le_trans high last⟩)
  simp only [isUnreserved, alphanumeric, Bool.true_or]

namespace IsComponent

theorem append {first second : List Char} (before : IsComponent first)
    (after : IsComponent second) : IsComponent (first ++ second) := by
  induction before with
  | nil => exact after
  | unreserved plain _ ih => exact .unreserved plain ih
  | escape high low _ ih => exact .escape high low ih

theorem forall_isWritten {text : List Char} (component : IsComponent text) :
    ∀ c ∈ text, isWritten c = true := by
  have plain : ∀ {c : Char}, isUnreserved c = true → isWritten c = true := by
    intro c unreserved
    simp only [isWritten, unreserved, Bool.true_or]
  induction component with
  | nil => exact List.forall_mem_nil _
  | unreserved unreserved _ ih => exact List.forall_mem_cons.mpr ⟨plain unreserved, ih⟩
  | escape high low _ ih =>
      have first := plain (isUnreserved_of_isUpperHexDigit high)
      have second := plain (isUnreserved_of_isUpperHexDigit low)
      simp only [List.forall_mem_cons]
      exact ⟨rfl, first, second, ih⟩

end IsComponent

theorem isComponent_escape (byte : UInt8) : IsComponent (escape byte) :=
  .escape (isUpperHexDigit_hexDigit (high_lt byte)) (isUpperHexDigit_hexDigit (low_lt byte)) .nil

theorem isComponent_escapes (bytes : List UInt8) : IsComponent (bytes.flatMap escape) := by
  induction bytes with
  | nil => exact .nil
  | cons byte later ih =>
      rw [List.flatMap_cons]
      exact (isComponent_escape byte).append ih

theorem isComponent_encodeChar (c : Char) : IsComponent (encodeChar c) := by
  unfold encodeChar
  split
  · rename_i unreserved
    exact .unreserved unreserved .nil
  · exact isComponent_escapes _

theorem isComponent_encodeChars (text : List Char) : IsComponent (encodeChars text) := by
  induction text with
  | nil => exact .nil
  | cons c rest ih =>
      rw [encodeChars, List.flatMap_cons]
      exact (isComponent_encodeChar c).append ih

theorem isWritten_eq_false_of_mem_structureMarks {c : Char} (mark : c ∈ structureMarks) :
    isWritten c = false := by
  fin_cases mark <;> rfl

/-- Encoding loses nothing and brings in no structure: an encoded text has the form of a component,
none of its characters marks structure or is beyond ASCII, and it decodes to the text it was made
from. -/
theorem encode_lossless (text : String) :
    IsComponent (encode text).toList ∧
      (∀ c ∈ (encode text).toList, isAscii c = true ∧ c ∉ structureMarks) ∧
      decode (encode text) = .ok text := by
  have chars : (encode text).toList = encodeChars text.toList := String.toList_ofList
  have component := isComponent_encodeChars text.toList
  refine ⟨chars ▸ component, ?_, ?_⟩
  · intro c member
    have written := component.forall_isWritten c (chars ▸ member)
    refine ⟨isAscii_of_isWritten written, fun mark => ?_⟩
    rw [isWritten_eq_false_of_mem_structureMarks mark] at written
    cases written
  · rw [decode, chars, decodeChars_encodeChars, Except.map, String.ofList_toList]

end UriRouting.Percent
