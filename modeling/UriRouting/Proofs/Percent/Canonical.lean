import Mathlib
import UriRouting.Proofs.Failure
import UriRouting.Proofs.Percent.Component
import UriRouting.Proofs.Utf8.Strictness

/-! # The texts that encoding writes

Encoding can be seen to work on bytes: each byte of a text is written by itself, as a character if it
is the byte of an unreserved one, and as an escape otherwise. So an encoded text says byte for byte
what it was made from, and the bytes that unescaping finds in it are written back as they stood there.

A component can fail to be such a text in two ways only. It may escape a byte for no need, and its
bytes may be no UTF-8. What is no component differs from an encoded text in its characters already.
-/

namespace UriRouting.Percent

def writeByte (byte : UInt8) : List Char :=
  if isUnreserved (Char.ofNat byte.toNat) then [Char.ofNat byte.toNat] else escape byte

/-- Whether no escape in a text stands for the byte of an unreserved character. -/
def EscapesReserved (text : List Char) : Prop :=
  ∀ high low byte, ['%', high, low] <:+: text → escaped? high low = some byte →
    isUnreserved (Char.ofNat byte.toNat) = false

/-- Whether a text is what encoding makes of the text that it decodes to. -/
def IsCanonical (text : List Char) : Prop :=
  ∃ plain, decodeChars text = .ok plain ∧ encodeChars plain = text

instance (text : List Char) : Decidable (IsCanonical text) :=
  match decoded : decodeChars text with
  | .ok plain => decidable_of_iff (encodeChars plain = text) (by simp [IsCanonical, decoded])
  | .error fault => isFalse (by simp [IsCanonical, decoded])

theorem exists_hexDigit {c : Char} (digit : isUpperHexDigit c = true) :
    ∃ n, n < 16 ∧ hexDigit n = c := by
  have value : c.toNat = c.val.toNat := rfl
  simp only [isUpperHexDigit, Char.isDigit, Bool.or_eq_true, Bool.and_eq_true, decide_eq_true_eq,
    Char.le_def, ge_iff_le, UInt32.le_iff_toNat_le, Char.reduceVal, UInt32.reduceToNat] at digit
  rcases digit with ⟨first, last⟩ | ⟨first, last⟩
  · refine ⟨c.toNat - 0x30, by omega, ?_⟩
    have same : 0x30 + (c.toNat - 0x30) = c.toNat := by omega
    rw [hexDigit, if_pos (by omega), same, Char.ofNat_toNat]
  · refine ⟨c.toNat - 0x37, by omega, ?_⟩
    have same : 0x37 + (c.toNat - 0x37) = c.toNat := by omega
    rw [hexDigit, if_neg (by omega), same, Char.ofNat_toNat]

theorem exists_escape {high low : Char} (highDigit : isUpperHexDigit high = true)
    (lowDigit : isUpperHexDigit low = true) : ∃ byte, escape byte = ['%', high, low] := by
  obtain ⟨h, hSmall, rfl⟩ := exists_hexDigit highDigit
  obtain ⟨l, lSmall, rfl⟩ := exists_hexDigit lowDigit
  refine ⟨.ofNat (16 * h + l), ?_⟩
  rw [escape, Utf8.toNat_byte (by omega)]
  have first : (16 * h + l) / 16 = h := by omega
  have second : (16 * h + l) % 16 = l := by omega
  rw [first, second]

theorem writeByte_of_isUnreserved {c : Char} (unreserved : isUnreserved c = true) :
    writeByte (.ofNat c.toNat) = [c] := by
  have ascii := toNat_lt_of_isUnreserved unreserved
  have same : Char.ofNat (UInt8.ofNat c.toNat).toNat = c := by
    rw [Utf8.toNat_byte (by omega), Char.ofNat_toNat]
  rw [writeByte, same, if_pos unreserved]

theorem not_isUnreserved_of_le {n : Nat} (beyond : 0x80 ≤ n) (byte : n < 0x100) :
    isUnreserved (Char.ofNat n) = false := by
  rw [← Bool.not_eq_true]
  intro unreserved
  have ascii := toNat_lt_of_isUnreserved unreserved
  rw [Utf8.toNat_char (.inl (show n < 0xD800 by omega))] at ascii
  omega

theorem le_of_mem_encodeChar {c : Char} (beyond : 0x80 ≤ c.toNat) {byte : UInt8}
    (member : byte ∈ Utf8.encodeChar c) : 0x80 ≤ byte.toNat := by
  have valid := Utf8.toNat_valid c
  rw [Utf8.encodeChar, if_neg (Nat.not_lt.mpr beyond)] at member
  split at member
  · simp only [List.mem_cons, List.not_mem_nil, or_false] at member
    rcases member with rfl | rfl <;> rw [Utf8.toNat_byte (by omega)] <;> omega
  split at member
  · simp only [List.mem_cons, List.not_mem_nil, or_false] at member
    rcases member with rfl | rfl | rfl <;> rw [Utf8.toNat_byte (by omega)] <;> omega
  · simp only [List.mem_cons, List.not_mem_nil, or_false] at member
    rcases member with rfl | rfl | rfl | rfl <;> rw [Utf8.toNat_byte (by omega)] <;> omega

theorem encodeChar_eq (c : Char) : encodeChar c = (Utf8.encodeChar c).flatMap writeByte := by
  by_cases unreserved : isUnreserved c = true
  · rw [encodeChar, if_pos unreserved, Utf8.encodeChar]
    simp only [if_pos (toNat_lt_of_isUnreserved unreserved), List.flatMap_singleton,
      writeByte_of_isUnreserved unreserved]
  · have escaped : ∀ byte ∈ Utf8.encodeChar c, writeByte byte = escape byte := by
      intro byte member
      refine if_neg ?_
      by_cases ascii : c.toNat < 0x80
      · simp only [Utf8.encodeChar, if_pos ascii, List.mem_singleton] at member
        rw [member, Utf8.toNat_byte (by omega), Char.ofNat_toNat]
        exact unreserved
      · have beyond := le_of_mem_encodeChar (Nat.not_lt.mp ascii) member
        rw [not_isUnreserved_of_le beyond byte.toNat_lt]
        exact Bool.false_ne_true
    rw [encodeChar, if_neg unreserved]
    exact (List.flatMap_congr escaped).symm

theorem encodeChars_eq (text : List Char) :
    encodeChars text = (Utf8.encode text).flatMap writeByte := by
  rw [encodeChars, Utf8.encode, List.flatMap_assoc]
  exact List.flatMap_congr fun c _ => encodeChar_eq c

theorem EscapesReserved.of_suffix {text rest : List Char} (reserved : EscapesReserved text)
    (tail : rest <:+ text) : EscapesReserved rest := by
  intro high low byte inside
  exact reserved high low byte (inside.trans tail.isInfix)

/-- Where nothing is escaped for no need, writing the bytes of a component gives it back. -/
theorem write_unescape {text : List Char} (component : IsComponent text)
    (reserved : EscapesReserved text) : (unescape text).flatMap writeByte = text := by
  induction component with
  | nil => rfl
  | @unreserved c rest plain _ ih =>
      have later : EscapesReserved rest := reserved.of_suffix (List.suffix_cons c rest)
      rw [unescape_cons_of_ne (ne_percent_of_isUnreserved plain), List.flatMap_cons,
        writeByte_of_isUnreserved plain, ih later, List.singleton_append]
  | @escape high low rest highDigit lowDigit _ ih =>
      obtain ⟨byte, spelled⟩ := exists_escape highDigit lowDigit
      have whole : '%' :: high :: low :: rest = Percent.escape byte ++ rest := by
        rw [spelled]
        rfl
      have named : escaped? high low = some byte := by
        have digits := escaped?_escape byte
        simp only [Percent.escape, List.cons.injEq, true_and, and_true] at spelled
        rwa [spelled.1, spelled.2] at digits
      have needed := reserved high low byte (List.prefix_append _ rest).isInfix named
      have later : EscapesReserved rest :=
        reserved.of_suffix (whole ▸ List.suffix_append (Percent.escape byte) rest)
      rw [whole, unescape_escape, List.flatMap_cons, ih later, writeByte, needed]
      rfl

theorem infix_of_infix_cons {high low c : Char} {rest : List Char} (ne : c ≠ '%')
    (inside : ['%', high, low] <:+: c :: rest) : ['%', high, low] <:+: rest := by
  rcases List.infix_cons_iff.mp inside with first | later
  · exact absurd (List.cons_prefix_cons.mp first).1.symm ne
  · exact later

/-- In front of an escape of its own, what is written for a byte begins none. -/
theorem infix_writeByte_append {high low : Char} {byte : UInt8} {rest : List Char}
    (inside : ['%', high, low] <:+: writeByte byte ++ rest) :
    (escaped? high low = some byte ∧ isUnreserved (Char.ofNat byte.toNat) = false) ∨
      ['%', high, low] <:+: rest := by
  cases plain : isUnreserved (Char.ofNat byte.toNat) with
  | true =>
      rw [writeByte, if_pos plain] at inside
      exact .inr (infix_of_infix_cons (ne_percent_of_isUnreserved plain) inside)
  | false =>
      rw [writeByte, plain] at inside
      change ['%', high, low] <:+:
        '%' :: hexDigit (byte.toNat / 16) :: hexDigit (byte.toNat % 16) :: rest at inside
      rcases List.infix_cons_iff.mp inside with first | later
      · simp only [List.cons_prefix_cons, List.nil_prefix, and_true, true_and] at first
        obtain ⟨rfl, rfl⟩ := first
        exact .inl ⟨escaped?_escape byte, rfl⟩
      · have high := ne_percent_of_isUnreserved (isUnreserved_hexDigit (high_lt byte))
        have low := ne_percent_of_isUnreserved (isUnreserved_hexDigit (low_lt byte))
        exact .inr (infix_of_infix_cons low (infix_of_infix_cons high later))

theorem escapesReserved_encodeChars (text : List Char) : EscapesReserved (encodeChars text) := by
  rw [encodeChars_eq]
  intro high low byte inside named
  generalize Utf8.encode text = bytes at inside
  induction bytes with
  | nil => exact absurd (List.infix_nil.mp inside) (List.cons_ne_nil _ _)
  | cons first later ih =>
      rcases infix_writeByte_append inside with ⟨spelled, reserved⟩ | inLater
      · obtain rfl := Option.some.inj (spelled.symm.trans named)
        exact reserved
      · exact ih inLater

/-- A text is written for what it decodes to if it is a component that escapes nothing for no need,
and in no other case. -/
theorem encodeChars_eq_iff {text plain : List Char} :
    encodeChars plain = text ↔
      IsComponent text ∧ EscapesReserved text ∧ decodeChars text = .ok plain := by
  constructor
  · rintro rfl
    exact ⟨isComponent_encodeChars plain, escapesReserved_encodeChars plain,
      decodeChars_encodeChars plain⟩
  · rintro ⟨component, reserved, decoded⟩
    have ascii : ∀ c ∈ text, isAscii c = true :=
      fun c member => isAscii_of_isWritten (component.forall_isWritten c member)
    rw [decodeChars_of_isAscii ascii, Utf8.decode_eq_ok_iff] at decoded
    rw [encodeChars_eq, ← decoded, write_unescape component reserved]

theorem encode_eq_iff {text plain : String} :
    encode plain = text ↔
      IsComponent text.toList ∧ EscapesReserved text.toList ∧ decode text = .ok plain := by
  rw [← String.toList_inj, encode, String.toList_ofList, encodeChars_eq_iff, decode,
    map_ofList_eq_ok_iff]

/-- Encoding writes exactly the components that escape nothing for no need and that decode, and
these are the texts that come back when they are decoded and encoded again. -/
theorem encode_image :
    (∀ text, (∃ plain, encode plain = text) ↔
      IsComponent text.toList ∧ EscapesReserved text.toList ∧ ∃ plain, decode text = .ok plain) ∧
    ∀ text plain, decode text = .ok plain →
      (encode plain = text ↔ IsComponent text.toList ∧ EscapesReserved text.toList) := by
  constructor
  · intro text
    simp only [encode_eq_iff, exists_and_left]
  · intro text plain decoded
    rw [encode_eq_iff]
    simp only [decoded, and_true]

theorem encode_image_accented :
    decode "caf%C3%A9" = .ok "café" ∧
      (IsComponent "caf%C3%A9".toList ∧ EscapesReserved "caf%C3%A9".toList) ∧
      ¬ (IsComponent "%63af%C3%A9".toList ∧ EscapesReserved "%63af%C3%A9".toList) := by
  have decoded : decode "caf%C3%A9" = .ok "café" := by decide
  have needless : decode "%63af%C3%A9" = .ok "café" := by decide
  refine ⟨decoded, (encode_image.2 _ _ decoded).mp (by decide), fun written => ?_⟩
  have same := (encode_image.2 _ _ needless).mpr written
  exact absurd same (by decide)

end UriRouting.Percent
