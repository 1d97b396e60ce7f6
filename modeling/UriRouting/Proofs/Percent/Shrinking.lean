import Mathlib
import UriRouting.Proofs.Percent.Composition

/-! # Decoding makes a text shorter by its escapes

An escape is three characters and one byte, and no character has less than one byte. So each escape
takes at least two characters away when a text is decoded, and nothing else changes its length. A text
without escapes is decoded to itself, and no other text is.

A decoded text may have escapes again, since a percent sign can be escaped too. It is shorter than the
text that it came from, so decoding again and again comes to an end.
-/

namespace UriRouting.Percent

def beginsEscape : List Char → Bool
  | sign :: high :: low :: _ =>
    sign == '%' && (hexValue? high).isSome && (hexValue? low).isSome
  | _ => false

/-- In how many places of a text an escape begins. -/
def escapeCount (text : List Char) : Nat :=
  text.tails.countP beginsEscape

def decodeTimes : (times : Nat) → String → Except Utf8.Fault String
  | 0, text => .ok text
  | times + 1, text => do
    let plain ← decode text
    decodeTimes times plain

section

variable {c high low : Char} {byte : UInt8} {text rest plain : List Char}

theorem escapeCount_cons (c : Char) (rest : List Char) :
    escapeCount (c :: rest) = escapeCount rest + if beginsEscape (c :: rest) then 1 else 0 :=
  List.countP_cons

theorem escapeCount_cons_of_not_begins (literal : beginsEscape (c :: rest) = false) :
    escapeCount (c :: rest) = escapeCount rest :=
  List.countP_cons_of_neg (ne_true_of_eq_false literal)

theorem escapeCount_cons_of_ne (ne : c ≠ '%') (rest : List Char) :
    escapeCount (c :: rest) = escapeCount rest := by
  apply escapeCount_cons_of_not_begins
  match rest with
  | [] | [_] => rfl
  | _ :: _ :: _ => simp [beginsEscape, ne]

theorem escapeCount_of_not_mem (absent : '%' ∉ text) : escapeCount text = 0 := by
  induction text with
  | nil => rfl
  | cons c rest ih =>
      simp only [List.mem_cons, not_or] at absent
      rw [escapeCount_cons_of_ne (Ne.symm absent.1), ih absent.2]

theorem beginsEscape_percent (high low : Char) (rest : List Char) :
    beginsEscape ('%' :: high :: low :: rest) = (escaped? high low).isSome := by
  rw [beginsEscape, escaped?]
  cases hexValue? high <;> cases hexValue? low <;> rfl

/-! The cases that unescaping tells apart -/

theorem escapeCount_escape (named : escaped? high low = some byte) (rest : List Char) :
    escapeCount ('%' :: high :: low :: rest) = escapeCount rest + 1 := by
  have noDigit : hexValue? '%' = none := by decide
  have highSign : high ≠ '%' := by
    rintro rfl
    simp [escaped?, noDigit] at named
  have lowSign : low ≠ '%' := by
    rintro rfl
    simp [escaped?, noDigit] at named
  have begins : beginsEscape ('%' :: high :: low :: rest) = true := by
    rw [beginsEscape_percent, named, Option.isSome_some]
  rw [escapeCount_cons, if_pos begins, escapeCount_cons_of_ne highSign,
    escapeCount_cons_of_ne lowSign]

theorem escapeCount_percent (unnamed : escaped? high low = none) (rest : List Char) :
    escapeCount ('%' :: high :: low :: rest) = escapeCount (high :: low :: rest) := by
  apply escapeCount_cons_of_not_begins
  rw [beginsEscape_percent, unnamed, Option.isSome_none]

theorem escapeCount_other
    (other : ∀ high low later, c = '%' → rest = high :: low :: later → False) :
    escapeCount (c :: rest) = escapeCount rest := by
  match rest with
  | [] | [_] => exact escapeCount_cons_of_not_begins rfl
  | high :: low :: later => exact escapeCount_cons_of_ne (other high low later · rfl) _

theorem length_unescape (text : List Char) :
    (unescape text).length + 2 * escapeCount text = text.length := by
  fun_induction unescape text with
  | case1 high low rest byte named ih =>
      rw [escapeCount_escape named]
      simp only [List.length_cons]
      omega
  | case2 high low rest unnamed ih =>
      rw [escapeCount_percent unnamed]
      simp only [List.length_cons] at ih ⊢
      omega
  | case3 c rest other ih =>
      rw [escapeCount_other other]
      simp only [List.length_cons]
      omega
  | case4 => rfl

theorem encode_cons_of_isAscii (ascii : isAscii c = true) (rest : List Char) :
    Utf8.encode (c :: rest) = .ofNat c.toNat :: Utf8.encode rest := by
  have single : Utf8.encodeChar c = [.ofNat c.toNat] := if_pos (of_decide_eq_true ascii)
  rw [Utf8.encode, List.flatMap_cons, single, List.singleton_append, ← Utf8.encode]

theorem unescape_of_escapeCount_eq_zero (ascii : ∀ c ∈ text, isAscii c = true)
    (unescaped : escapeCount text = 0) : unescape text = Utf8.encode text := by
  fun_induction unescape text with
  | case1 high low rest byte named ih =>
      rw [escapeCount_escape named] at unescaped
      cases unescaped
  | case2 high low rest unnamed ih =>
      rw [escapeCount_percent unnamed] at unescaped
      obtain ⟨sign, ascii⟩ := List.forall_mem_cons.mp ascii
      rw [ih ascii unescaped, encode_cons_of_isAscii sign]
      rfl
  | case3 c rest other ih =>
      rw [escapeCount_other other] at unescaped
      obtain ⟨small, ascii⟩ := List.forall_mem_cons.mp ascii
      rw [ih ascii unescaped, encode_cons_of_isAscii small]
  | case4 => rfl

theorem length_le_length_encode (text : List Char) : text.length ≤ (Utf8.encode text).length := by
  induction text with
  | nil => exact Nat.le_refl 0
  | cons c rest ih =>
      have filled := c.utf8Size_pos
      rw [Utf8.encode, List.flatMap_cons, ← Utf8.encode, List.length_append,
        Utf8.length_encodeChar, List.length_cons]
      omega

theorem hexValue?_of_beyond (beyond : isAscii c = false) : hexValue? c = none := by
  have large : 0x80 ≤ c.toNat := Nat.not_lt.mp (of_decide_eq_false beyond)
  simp only [hexValue?]
  rw [if_neg (by omega), if_neg (by omega), if_neg (by omega)]

/-- No escape goes across a character beyond ASCII. -/
theorem beginsEscape_append_beyond (beyond : isAscii c = false) (lead rest : List Char) :
    beginsEscape (lead ++ c :: rest) = beginsEscape lead := by
  have noDigit := hexValue?_of_beyond beyond
  have noSign : c ≠ '%' := by
    rintro rfl
    cases beyond
  match lead with
  | [] => cases rest with
    | nil => rfl
    | cons second rest => cases rest <;> simp [beginsEscape, noSign]
  | [_] => cases rest <;> simp [beginsEscape, noDigit]
  | [_, _] => simp [beginsEscape, noDigit]
  | _ :: _ :: _ :: _ => rfl

theorem escapeCount_append_beyond (beyond : isAscii c = false) (lead rest : List Char) :
    escapeCount (lead ++ c :: rest) = escapeCount lead + escapeCount rest := by
  have begins := beginsEscape_append_beyond beyond
  induction lead with
  | nil =>
      rw [List.nil_append, escapeCount_cons_of_not_begins (begins [] rest)]
      exact (Nat.zero_add _).symm
  | cons first lead ih =>
      have same := begins (first :: lead) rest
      rw [List.cons_append] at same ⊢
      rw [escapeCount_cons, same, ih, escapeCount_cons first lead]
      omega

theorem decodeChars_append_beyond (beyond : isAscii c = false) {lead : List Char}
    (ascii : ∀ c ∈ lead, isAscii c = true) (rest : List Char) :
    decodeChars (lead ++ c :: rest) = .ok plain ↔
      ∃ before after, decodeChars lead = .ok before ∧ decodeChars rest = .ok after ∧
        plain = before ++ c :: after := by
  have safe : IsSafeCut lead (c :: rest) := isSafeCut_of_beyond (by simpa using beyond) lead
  rw [decodeChars_ascii_append ascii safe, decodeChars_cons_other beyond]
  simp only [bind_eq_ok_iff, pure, Except.pure, Except.ok.injEq]
  constructor
  · rintro ⟨before, first, _, ⟨after, second, rfl⟩, rfl⟩
    exact ⟨before, after, first, second, rfl⟩
  · rintro ⟨before, after, first, second, rfl⟩
    exact ⟨before, first, _, ⟨after, second, rfl⟩, rfl⟩

theorem length_decodeChars_le_of_isAscii (ascii : ∀ c ∈ text, isAscii c = true)
    (decoded : decodeChars text = .ok plain) :
    plain.length + 2 * escapeCount text ≤ text.length := by
  rw [decodeChars_of_isAscii ascii, Utf8.decode_eq_ok_iff] at decoded
  have bytes := length_unescape text
  have atLeast := length_le_length_encode plain
  rw [← decoded] at atLeast
  omega

/-- Each escape takes two characters away, at least. -/
theorem length_decodeChars_le (decoded : decodeChars text = .ok plain) :
    plain.length + 2 * escapeCount text ≤ text.length := by
  induction text using leadInduction generalizing plain with
  | ascii lead ascii => exact length_decodeChars_le_of_isAscii ascii decoded
  | other lead c rest ascii beyond ih =>
      obtain ⟨before, after, first, second, rfl⟩ :=
        (decodeChars_append_beyond beyond ascii rest).mp decoded
      have atLead := length_decodeChars_le_of_isAscii ascii first
      have atRest := ih second
      rw [escapeCount_append_beyond beyond, List.length_append, List.length_append,
        List.length_cons, List.length_cons]
      omega

theorem decodeChars_of_isAscii_of_escapeCount (ascii : ∀ c ∈ text, isAscii c = true)
    (unescaped : escapeCount text = 0) : decodeChars text = .ok text := by
  rw [decodeChars_of_isAscii ascii, unescape_of_escapeCount_eq_zero ascii unescaped,
    Utf8.decode_encode]

theorem decodeChars_of_escapeCount_eq_zero (unescaped : escapeCount text = 0) :
    decodeChars text = .ok text := by
  induction text using leadInduction with
  | ascii lead ascii => exact decodeChars_of_isAscii_of_escapeCount ascii unescaped
  | other lead c rest ascii beyond ih =>
      rw [escapeCount_append_beyond beyond, Nat.add_eq_zero_iff] at unescaped
      rw [decodeChars_append_beyond beyond ascii]
      have atLead := decodeChars_of_isAscii_of_escapeCount ascii unescaped.1
      exact ⟨lead, rest, atLead, ih unescaped.2, rfl⟩

end

section

variable {text plain : String} {times : Nat}

theorem length_decode_le (decoded : decode text = .ok plain) :
    plain.length + 2 * escapeCount text.toList ≤ text.length := by
  rw [decode, map_ofList_eq_ok_iff] at decoded
  simpa only [String.length_toList] using length_decodeChars_le decoded

theorem decode_eq_self_iff : decode text = .ok text ↔ escapeCount text.toList = 0 := by
  constructor
  · intro fixed
    have shorter := length_decode_le fixed
    omega
  · intro unescaped
    rw [decode, map_ofList_eq_ok_iff]
    exact decodeChars_of_escapeCount_eq_zero unescaped

theorem length_add_two_le_of_decode (decoded : decode text = .ok plain) (differs : plain ≠ text) :
    plain.length + 2 ≤ text.length := by
  have escaped : escapeCount text.toList ≠ 0 := by
    intro unescaped
    rw [decode_eq_self_iff.mpr unescaped] at decoded
    exact differs (Except.ok.inj decoded).symm
  have shorter := length_decode_le decoded
  omega

theorem decodeTimes_of_fixed (fixed : decode text = .ok text) (times : Nat) :
    decodeTimes times text = .ok text := by
  induction times with
  | zero => rfl
  | succ times ih =>
      rw [decodeTimes, fixed]
      exact ih

theorem decodeTimes_add (times more : Nat) (text : String) :
    decodeTimes (times + more) text = decodeTimes times text >>= decodeTimes more := by
  induction times generalizing text with
  | zero =>
      rw [Nat.zero_add]
      rfl
  | succ times ih =>
      rw [Nat.succ_add, decodeTimes, decodeTimes, bind_assoc]
      exact congrArg _ (funext ih)

theorem escapeCount_of_length_le_one (short : text.length ≤ 1) : escapeCount text.toList = 0 := by
  rw [← String.length_toList] at short
  match text.toList, short with
  | [], _ | [_], _ => rfl

/-- Decoding often enough leads to a text that stays as it is: on the way to it, each step takes two
characters away. -/
theorem decode_of_decodeTimes (enough : text.length ≤ 2 * times + 1)
    (reached : decodeTimes times text = .ok plain) : decode plain = .ok plain := by
  induction times generalizing text with
  | zero =>
      obtain rfl := Except.ok.inj reached
      exact decode_eq_self_iff.mpr (escapeCount_of_length_le_one enough)
  | succ times ih =>
      obtain ⟨next, decoded, reached⟩ := bind_eq_ok_iff.mp reached
      by_cases same : next = text
      · subst same
        rw [decodeTimes_of_fixed decoded] at reached
        obtain rfl := Except.ok.inj reached
        exact decoded
      · have shorter := length_add_two_le_of_decode decoded same
        exact ih (by omega) reached

end

/-- Decoding makes a text shorter by two characters for each escape, or by more, so it changes nothing
exactly where there is no escape. Decoding what was decoded comes to an end, in a fault or in a text that
stays as it is, after half as many steps as there are characters. -/
theorem decode_shrinks (text : String) :
    (∀ plain, decode text = .ok plain →
        plain.length + 2 * escapeCount text.toList ≤ text.length) ∧
      (decode text = .ok text ↔ escapeCount text.toList = 0) ∧
      ('%' ∉ text.toList → decode text = .ok text) ∧
      ∃ times ≤ text.length / 2,
        (∃ fault, ∀ more ≥ times, decodeTimes more text = .error fault) ∨
          ∃ plain, decode plain = .ok plain ∧ ∀ more ≥ times, decodeTimes more text = .ok plain := by
  refine ⟨fun plain => length_decode_le, decode_eq_self_iff, ?_, text.length / 2, Nat.le_refl _, ?_⟩
  · intro absent
    exact decode_eq_self_iff.mpr (escapeCount_of_not_mem absent)
  have later : ∀ more ≥ text.length / 2, decodeTimes more text =
      decodeTimes (text.length / 2) text >>= decodeTimes (more - text.length / 2) := by
    intro more enough
    rw [← decodeTimes_add, Nat.add_sub_cancel' enough]
  cases reached : decodeTimes (text.length / 2) text with
  | error fault =>
      refine .inl ⟨fault, fun more enough => ?_⟩
      rw [later more enough, reached]
      rfl
  | ok plain =>
      have fixed := decode_of_decodeTimes (by omega) reached
      refine .inr ⟨plain, fixed, fun more enough => ?_⟩
      rw [later more enough, reached]
      exact decodeTimes_of_fixed fixed _

theorem decode_shrinks_twice :
    decode "%2525%C3%A9" = .ok "%25é" ∧ decode "%25é" = .ok "%é" ∧
      "%25é".length + 2 * escapeCount "%2525%C3%A9".toList ≤ "%2525%C3%A9".length ∧
      decode "%é" = .ok "%é" ∧ '%' ∉ "é".toList ∧ decode "é" = .ok "é" := by
  have first : decode "%2525%C3%A9" = .ok "%25é" := by decide
  have absent : '%' ∉ "é".toList := by decide
  refine ⟨first, by decide, (decode_shrinks _).1 _ first, ?_, absent, (decode_shrinks _).2.2.1 absent⟩
  exact (decode_shrinks _).2.1.mpr (by decide)

end UriRouting.Percent
