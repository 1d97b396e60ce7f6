import Mathlib
import UriRouting.Proofs.Failure
import UriRouting.Proofs.Utf8.RoundTrip

/-! # Only the bytes of a text can be read

Each character has one spelling. The first byte confines the second one so far that no longer
spelling of a character, no surrogate and no number beyond the last character comes out, so whatever
is read as a character is the bytes of that character.

Where the reading fails is not said here.
-/

namespace UriRouting.Utf8

theorem ofNat_eq_byte (byte : UInt8) {n : Nat} (same : n = byte.toNat) : UInt8.ofNat n = byte := by
  rw [same, UInt8.ofNat_toNat]

theorem toNat_char {n : Nat} (valid : n < 0xD800 ∨ (0xDFFF < n ∧ n < 0x110000)) :
    (Char.ofNat n).toNat = n := by
  rw [Char.toNat_ofNat, if_pos valid]

theorem encodeChar_one {n : Nat} (high : n < 0x80) : encodeChar (Char.ofNat n) = [.ofNat n] := by
  simp only [encodeChar, toNat_char (.inl (show n < 0xD800 by omega)), if_pos high]

theorem encodeChar_two {n : Nat} (low : 0x80 ≤ n) (high : n < 0x800) :
    encodeChar (Char.ofNat n) = [.ofNat (0xC0 + n / 0x40), .ofNat (0x80 + n % 0x40)] := by
  simp only [encodeChar, toNat_char (.inl (show n < 0xD800 by omega))]
  rw [if_neg (by omega), if_pos high]

theorem encodeChar_three {n : Nat} (low : 0x800 ≤ n) (high : n < 0x10000)
    (valid : n < 0xD800 ∨ 0xDFFF < n) :
    encodeChar (Char.ofNat n) =
      [.ofNat (0xE0 + n / 0x1000), .ofNat (0x80 + n / 0x40 % 0x40), .ofNat (0x80 + n % 0x40)] := by
  simp only [encodeChar, toNat_char (show n < 0xD800 ∨ (0xDFFF < n ∧ n < 0x110000) by omega)]
  rw [if_neg (by omega), if_neg (by omega), if_pos high]

theorem encodeChar_four {n : Nat} (low : 0x10000 ≤ n) (high : n < 0x110000) :
    encodeChar (Char.ofNat n) =
      [.ofNat (0xF0 + n / 0x40000), .ofNat (0x80 + n / 0x1000 % 0x40),
        .ofNat (0x80 + n / 0x40 % 0x40), .ofNat (0x80 + n % 0x40)] := by
  simp only [encodeChar, toNat_char (show n < 0xD800 ∨ (0xDFFF < n ∧ n < 0x110000) by omega)]
  rw [if_neg (by omega), if_neg (by omega), if_neg (by omega)]

/-- The bytes that satisfy a demand, and the character that the last one completes. -/
inductive Completes : Demand → List UInt8 → Char → Prop where
  | last {demand : Demand} {byte : UInt8} {c : Char} :
    demand.read byte = .completes c → Completes demand [byte] c
  | more {demand next : Demand} {byte : UInt8} {later : List UInt8} {c : Char} :
    demand.read byte = .goesOn next → Completes next later c → Completes demand (byte :: later) c

theorem bounds_of_read {bits low high later : Nat} {byte : UInt8}
    (taken : Demand.read ⟨bits, low, high, later⟩ byte ≠ .refused) :
    low ≤ byte.toNat ∧ byte.toNat ≤ high := by
  by_contra outside
  exact taken (if_neg outside)

theorem read_of_bounds {bits low high later : Nat} {byte : UInt8} (above : low ≤ byte.toNat)
    (below : byte.toNat ≤ high) :
    Demand.read ⟨bits, low, high, later⟩ byte =
      match later with
      | 0 => .completes (Char.ofNat (bits * 0x40 + (byte.toNat - 0x80)))
      | later + 1 => .goesOn ⟨bits * 0x40 + (byte.toNat - 0x80), 0x80, 0xBF, later⟩ :=
  if_pos ⟨above, below⟩

theorem completes_last {bits low high : Nat} {bytes : List UInt8} {c : Char}
    (done : Completes ⟨bits, low, high, 0⟩ bytes c) :
    ∃ byte : UInt8, bytes = [byte] ∧ low ≤ byte.toNat ∧ byte.toNat ≤ high ∧
      c = Char.ofNat (bits * 0x40 + (byte.toNat - 0x80)) := by
  cases done with
  | last effect =>
      obtain ⟨above, below⟩ := bounds_of_read (by rw [effect]; exact Continuation.noConfusion)
      rw [read_of_bounds above below] at effect
      exact ⟨_, rfl, above, below, (Continuation.completes.inj effect).symm⟩
  | more effect =>
      obtain ⟨above, below⟩ := bounds_of_read (by rw [effect]; exact Continuation.noConfusion)
      rw [read_of_bounds above below] at effect
      cases effect

theorem completes_more {bits low high later : Nat} {bytes : List UInt8} {c : Char}
    (done : Completes ⟨bits, low, high, later + 1⟩ bytes c) :
    ∃ byte rest, bytes = byte :: rest ∧ low ≤ byte.toNat ∧ byte.toNat ≤ high ∧
      Completes ⟨bits * 0x40 + (byte.toNat - 0x80), 0x80, 0xBF, later⟩ rest c := by
  cases done with
  | last effect =>
      obtain ⟨above, below⟩ := bounds_of_read (by rw [effect]; exact Continuation.noConfusion)
      rw [read_of_bounds above below] at effect
      cases effect
  | more effect rest =>
      obtain ⟨above, below⟩ := bounds_of_read (by rw [effect]; exact Continuation.noConfusion)
      rw [read_of_bounds above below] at effect
      obtain rfl := Continuation.goesOn.inj effect
      exact ⟨_, _, rfl, above, below, rest⟩

theorem lead_eq_opens {byte : UInt8} {demand : Demand} (meaning : lead byte = .opens demand) :
    (0xC2 ≤ byte.toNat ∧ byte.toNat < 0xE0 ∧ demand = ⟨byte.toNat - 0xC0, 0x80, 0xBF, 0⟩) ∨
      (0xE0 ≤ byte.toNat ∧ byte.toNat < 0xF0 ∧
        demand = ⟨byte.toNat - 0xE0, if byte.toNat = 0xE0 then 0xA0 else 0x80,
          if byte.toNat = 0xED then 0x9F else 0xBF, 1⟩) ∨
      (0xF0 ≤ byte.toNat ∧ byte.toNat < 0xF5 ∧
        demand = ⟨byte.toNat - 0xF0, if byte.toNat = 0xF0 then 0x90 else 0x80,
          if byte.toNat = 0xF4 then 0x8F else 0xBF, 2⟩) := by
  simp only [lead] at meaning
  split at meaning
  · cases meaning
  split at meaning
  · cases meaning
  split at meaning
  · exact .inl ⟨by omega, by omega, (Lead.opens.inj meaning).symm⟩
  split at meaning
  · exact .inr (.inl ⟨by omega, by omega, (Lead.opens.inj meaning).symm⟩)
  split at meaning
  · exact .inr (.inr ⟨by omega, by omega, (Lead.opens.inj meaning).symm⟩)
  · cases meaning

theorem lead_eq_single {byte : UInt8} {c : Char} (meaning : lead byte = .single c) :
    byte.toNat < 0x80 ∧ c = Char.ofNat byte.toNat := by
  simp only [lead] at meaning
  split at meaning
  · rename_i small
    exact ⟨small, (Lead.single.inj meaning).symm⟩
  · repeat' split at meaning
    all_goals cases meaning

theorem encodeChar_of_completes {byte : UInt8} {demand : Demand} {bytes : List UInt8} {c : Char}
    (meaning : lead byte = .opens demand) (done : Completes demand bytes c) :
    encodeChar c = byte :: bytes := by
  rcases lead_eq_opens meaning with ⟨low, high, rfl⟩ | ⟨low, high, rfl⟩ | ⟨low, high, rfl⟩
  · obtain ⟨second, rfl, low₂, high₂, value⟩ := completes_last done
    rw [value, encodeChar_two (by omega) (by omega), ofNat_eq_byte byte (by omega),
      ofNat_eq_byte second (by omega)]
  · obtain ⟨second, _, rfl, low₂, high₂, done⟩ := completes_more done
    obtain ⟨third, rfl, low₃, high₃, value⟩ := completes_last done
    -- The bounds of the second byte keep out the longer spellings and the surrogates.
    split_ifs at low₂ high₂
    all_goals
      rw [value, encodeChar_three (by omega) (by omega) (by omega), ofNat_eq_byte byte (by omega),
        ofNat_eq_byte second (by omega), ofNat_eq_byte third (by omega)]
  · obtain ⟨second, _, rfl, low₂, high₂, done⟩ := completes_more done
    obtain ⟨third, _, rfl, low₃, high₃, done⟩ := completes_more done
    obtain ⟨fourth, rfl, low₄, high₄, value⟩ := completes_last done
    split_ifs at low₂ high₂
    all_goals
      rw [value, encodeChar_four (by omega) (by omega), ofNat_eq_byte byte (by omega),
        ofNat_eq_byte second (by omega), ofNat_eq_byte third (by omega),
        ofNat_eq_byte fourth (by omega)]

/-- If reading goes well in the middle of a character, the character is completed, and the rest is
read from there. -/
theorem completes_of_decodeFrom {position : Nat} {seq : Opened} {bytes : List UInt8}
    {text : List Char} (read : decodeFrom position (some seq) bytes = .ok text) :
    ∃ more rest c later next, bytes = more ++ rest ∧ Completes seq.demand more c ∧
      text = c :: later ∧ decodeFrom next none rest = .ok later := by
  induction bytes generalizing position seq with
  | nil => cases read
  | cons byte bytes ih =>
      cases effect : seq.demand.read byte with
      | completes c =>
          rw [decodeFrom_completes effect, map_eq_ok_iff] at read
          obtain ⟨later, after, rfl⟩ := read
          exact ⟨[byte], bytes, c, later, _, rfl, .last effect, rfl, after⟩
      | goesOn demand =>
          rw [decodeFrom_goesOn effect] at read
          obtain ⟨more, rest, c, later, next, rfl, done, rfl, after⟩ := ih read
          exact ⟨byte :: more, rest, c, later, next, rfl, .more effect done, rfl, after⟩
      | refused =>
          simp only [decodeFrom, effect] at read
          cases read

theorem encode_of_decodeFrom {position : Nat} {bytes : List UInt8} {text : List Char}
    (read : decodeFrom position none bytes = .ok text) : encode text = bytes := by
  match bytes with
  | [] =>
      obtain rfl := Except.ok.inj read
      rfl
  | byte :: bytes =>
      cases meaning : lead byte with
      | invalid =>
          simp only [decodeFrom, meaning] at read
          cases read
      | single c =>
          rw [decodeFrom_single meaning, map_eq_ok_iff] at read
          obtain ⟨later, after, rfl⟩ := read
          obtain ⟨small, rfl⟩ := lead_eq_single meaning
          rw [encode, List.flatMap_cons, ← encode, encode_of_decodeFrom after, encodeChar_one small,
            UInt8.ofNat_toNat, List.singleton_append]
      | opens demand =>
          rw [decodeFrom_opens meaning] at read
          obtain ⟨more, rest, c, later, next, rfl, done, rfl, after⟩ := completes_of_decodeFrom read
          have shorter : rest.length < (byte :: (more ++ rest)).length := by simp
          rw [encode, List.flatMap_cons, ← encode, encode_of_decodeFrom after,
            encodeChar_of_completes meaning done, List.cons_append]
termination_by bytes.length

theorem decode_eq_ok_iff {bytes : List UInt8} {text : List Char} :
    decode bytes = .ok text ↔ bytes = encode text := by
  constructor
  · intro read
    exact (encode_of_decodeFrom read).symm
  · rintro rfl
    exact decode_encode text

end UriRouting.Utf8
