import Mathlib
import UriRouting.Proofs.Percent.Runs
import UriRouting.Proofs.Utf8.RoundTrip

/-! # Decoding what was encoded

An encoded text is written with unreserved characters and percent signs only, so it is one run of
ASCII characters. Its escapes are the bytes of the characters that were escaped, and an unreserved
character is its own byte: unescaping gives the UTF-8 bytes of the text.
-/

namespace UriRouting.Percent

/-- Whether a character can stand in an encoded text. -/
def isWritten (c : Char) : Bool :=
  isUnreserved c || c == '%'

theorem isUnreserved_hexDigit {n : Nat} (small : n < 16) : isUnreserved (hexDigit n) = true := by
  interval_cases n <;> decide

theorem hexValue?_hexDigit {n : Nat} (small : n < 16) : hexValue? (hexDigit n) = some n := by
  interval_cases n <;> decide

theorem high_lt (byte : UInt8) : byte.toNat / 16 < 16 := by
  have := byte.toNat_lt
  omega

theorem low_lt (byte : UInt8) : byte.toNat % 16 < 16 := by
  omega

theorem escaped?_escape (byte : UInt8) :
    escaped? (hexDigit (byte.toNat / 16)) (hexDigit (byte.toNat % 16)) = some byte := by
  have whole : 16 * (byte.toNat / 16) + byte.toNat % 16 = byte.toNat := by omega
  simp only [escaped?, hexValue?_hexDigit (high_lt byte), hexValue?_hexDigit (low_lt byte), whole,
    UInt8.ofNat_toNat]

theorem toNat_lt_of_isAlphanum {c : Char} (alphanumeric : c.isAlphanum = true) :
    c.toNat < 0x80 := by
  have value : c.toNat = c.val.toNat := rfl
  simp only [Char.isAlphanum, Char.isAlpha, Char.isUpper, Char.isLower, Char.isDigit,
    Bool.or_eq_true, Bool.and_eq_true, decide_eq_true_eq, ge_iff_le, UInt32.le_iff_toNat_le,
    Char.reduceVal, UInt32.reduceToNat] at alphanumeric
  omega

theorem isAscii_of_isUnreserved {c : Char} (unreserved : isUnreserved c = true) :
    isAscii c = true := by
  simp only [isUnreserved, Bool.or_eq_true, List.contains_eq_mem, decide_eq_true_eq] at unreserved
  rcases unreserved with alphanumeric | mark
  · exact decide_eq_true (toNat_lt_of_isAlphanum alphanumeric)
  · fin_cases mark <;> rfl

theorem toNat_lt_of_isUnreserved {c : Char} (unreserved : isUnreserved c = true) :
    c.toNat < 0x80 :=
  of_decide_eq_true (isAscii_of_isUnreserved unreserved)

theorem ne_percent_of_isUnreserved {c : Char} (unreserved : isUnreserved c = true) : c ≠ '%' := by
  rintro rfl
  exact absurd unreserved (by decide)

theorem isAscii_of_isWritten {c : Char} (written : isWritten c = true) : isAscii c = true := by
  simp only [isWritten, Bool.or_eq_true, beq_iff_eq] at written
  rcases written with unreserved | rfl
  · exact isAscii_of_isUnreserved unreserved
  · rfl

theorem isWritten_of_mem_escape {byte : UInt8} {c : Char} (member : c ∈ escape byte) :
    isWritten c = true := by
  simp only [escape, List.mem_cons, List.not_mem_nil, or_false] at member
  rcases member with rfl | rfl | rfl
  · rfl
  · simp only [isWritten, isUnreserved_hexDigit (high_lt byte), Bool.true_or]
  · simp only [isWritten, isUnreserved_hexDigit (low_lt byte), Bool.true_or]

theorem isWritten_of_mem_encodeChars {text : List Char} {c : Char}
    (member : c ∈ encodeChars text) : isWritten c = true := by
  obtain ⟨original, -, inside⟩ := List.mem_flatMap.mp member
  unfold encodeChar at inside
  split at inside
  · rename_i unreserved
    obtain rfl := List.mem_singleton.mp inside
    simp only [isWritten, unreserved, Bool.true_or]
  · obtain ⟨byte, -, inEscape⟩ := List.mem_flatMap.mp inside
    exact isWritten_of_mem_escape inEscape

theorem not_mem_encodeChars {c : Char} (unwritten : isWritten c = false) (text : List Char) :
    c ∉ encodeChars text := by
  intro member
  rw [isWritten_of_mem_encodeChars member] at unwritten
  cases unwritten

theorem encodeChars_of_isUnreserved {text : List Char}
    (unreserved : ∀ c ∈ text, isUnreserved c = true) : encodeChars text = text := by
  have kept : ∀ c ∈ text, encodeChar c = [c] := fun c member => if_pos (unreserved c member)
  rw [encodeChars, List.flatMap_congr kept]
  exact List.flatMap_singleton' text

theorem unescape_cons_of_ne {c : Char} (ne : c ≠ '%') (rest : List Char) :
    unescape (c :: rest) = .ofNat c.toNat :: unescape rest := by
  rw [unescape.eq_def]
  split <;> simp_all

theorem unescape_escape (byte : UInt8) (rest : List Char) :
    unescape (escape byte ++ rest) = byte :: unescape rest := by
  simp only [escape, List.cons_append, List.nil_append, unescape, escaped?_escape]

theorem unescape_escapes (bytes : List UInt8) (rest : List Char) :
    unescape (bytes.flatMap escape ++ rest) = bytes ++ unescape rest := by
  induction bytes with
  | nil => rfl
  | cons byte later ih =>
      rw [List.flatMap_cons, List.append_assoc, unescape_escape, ih, List.cons_append]

theorem unescape_encodeChar (c : Char) (rest : List Char) :
    unescape (encodeChar c ++ rest) = Utf8.encodeChar c ++ unescape rest := by
  unfold encodeChar
  split
  · rename_i unreserved
    rw [List.singleton_append, unescape_cons_of_ne (ne_percent_of_isUnreserved unreserved)]
    simp only [Utf8.encodeChar, if_pos (toNat_lt_of_isUnreserved unreserved),
      List.singleton_append]
  · exact unescape_escapes _ rest

/-- Unescaping an encoded text gives its bytes, whatever follows. -/
theorem unescape_encodeChars_append (text rest : List Char) :
    unescape (encodeChars text ++ rest) = Utf8.encode text ++ unescape rest := by
  induction text with
  | nil => rfl
  | cons c later ih =>
      rw [encodeChars, List.flatMap_cons, List.append_assoc, unescape_encodeChar, ← encodeChars, ih,
        Utf8.encode, Utf8.encode, List.flatMap_cons, List.append_assoc]

theorem unescape_encodeChars (text : List Char) :
    unescape (encodeChars text) = Utf8.encode text := by
  have whole := unescape_encodeChars_append text []
  rwa [List.append_nil, unescape, List.append_nil] at whole

theorem split_of_isAscii {text : List Char} (ascii : ∀ c ∈ text, isAscii c = true)
    (filled : text ≠ []) : Run.split text = [.ascii text] := by
  have whole : Run.split (text ++ []) = [Run.ofSort true text] :=
    Run.split_append filled ascii fun _ none => by cases none
  rwa [List.append_nil] at whole

theorem decodeChars_of_split {run : Run} {text rest : List Char}
    (runs : Run.split text = run :: Run.split rest) :
    decodeChars text = do
      let before ← run.decode
      let after ← decodeChars rest
      return before ++ after := by
  rw [decodeChars, decodeChars, runs, List.mapM_cons]
  cases run.decode with
  | error fault => rfl
  | ok before => cases (Run.split rest).mapM Run.decode <;> rfl

theorem decodeChars_of_isAscii {text : List Char} (ascii : ∀ c ∈ text, isAscii c = true) :
    decodeChars text = Utf8.decode (unescape text) := by
  by_cases empty : text = []
  · subst empty
    rfl
  · have runs : Run.split text = .ascii text :: Run.split [] := split_of_isAscii ascii empty
    rw [decodeChars_of_split runs, Run.decode]
    cases Utf8.decode (unescape text) with
    | error fault => rfl
    | ok plain => exact congrArg Except.ok (List.append_nil plain)

/-- Decoding an encoded text gives the text. -/
theorem decodeChars_encodeChars (text : List Char) :
    decodeChars (encodeChars text) = .ok text := by
  have ascii : ∀ c ∈ encodeChars text, isAscii c = true :=
    fun c member => isAscii_of_isWritten (isWritten_of_mem_encodeChars member)
  rw [decodeChars_of_isAscii ascii, unescape_encodeChars, Utf8.decode_encode]

end UriRouting.Percent
