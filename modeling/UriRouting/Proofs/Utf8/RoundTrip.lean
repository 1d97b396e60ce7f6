import Mathlib
import UriRouting.Utf8

/-! # Reading the bytes of a text gives the text

Each character is read back from its own bytes, whatever follows them and wherever they stand. The
four lengths of a character are told apart by its number, and in each of them the first byte asks
for exactly the bytes that follow it.
-/

namespace UriRouting.Utf8

theorem toNat_byte {n : Nat} (small : n < 0x100) : (UInt8.ofNat n).toNat = n :=
  UInt8.toNat_ofNat_of_lt' (by simpa [UInt8.size] using small)

theorem toNat_valid (c : Char) : c.toNat < 0xD800 ∨ (0xDFFF < c.toNat ∧ c.toNat < 0x110000) :=
  c.valid

theorem lead_one {n : Nat} (high : n < 0x80) : lead (.ofNat n) = .single (Char.ofNat n) := by
  simp only [lead, toNat_byte (show n < 0x100 by omega), if_pos high]

theorem lead_two {n : Nat} (low : 0x80 ≤ n) (high : n < 0x800) :
    lead (.ofNat (0xC0 + n / 0x40)) = .opens ⟨n / 0x40, 0x80, 0xBF, 0⟩ := by
  simp only [lead, toNat_byte (show 0xC0 + n / 0x40 < 0x100 by omega)]
  rw [if_neg (by omega), if_neg (by omega), if_pos (by omega), Nat.add_sub_cancel_left]

theorem lead_three {n : Nat} (low : 0x800 ≤ n) (high : n < 0x10000) :
    lead (.ofNat (0xE0 + n / 0x1000)) =
      .opens ⟨n / 0x1000, if n < 0x1000 then 0xA0 else 0x80,
        if n / 0x1000 = 0xD then 0x9F else 0xBF, 1⟩ := by
  have first : (0xE0 + n / 0x1000 = 0xE0) = (n < 0x1000) := propext (by omega)
  have surrogate : (0xE0 + n / 0x1000 = 0xED) = (n / 0x1000 = 0xD) := propext (by omega)
  simp only [lead, toNat_byte (show 0xE0 + n / 0x1000 < 0x100 by omega), first, surrogate]
  rw [if_neg (by omega), if_neg (by omega), if_neg (by omega), if_pos (by omega),
    Nat.add_sub_cancel_left]

theorem lead_four {n : Nat} (low : 0x10000 ≤ n) (high : n < 0x110000) :
    lead (.ofNat (0xF0 + n / 0x40000)) =
      .opens ⟨n / 0x40000, if n < 0x40000 then 0x90 else 0x80,
        if n / 0x40000 = 4 then 0x8F else 0xBF, 2⟩ := by
  have first : (0xF0 + n / 0x40000 = 0xF0) = (n < 0x40000) := propext (by omega)
  have last : (0xF0 + n / 0x40000 = 0xF4) = (n / 0x40000 = 4) := propext (by omega)
  simp only [lead, toNat_byte (show 0xF0 + n / 0x40000 < 0x100 by omega), first, last]
  rw [if_neg (by omega), if_neg (by omega), if_neg (by omega), if_neg (by omega),
    if_pos (by omega), Nat.add_sub_cancel_left]

theorem read_last {bits low high n : Nat} (small : n < 0x40) (above : low ≤ 0x80 + n)
    (below : 0x80 + n ≤ high) :
    Demand.read ⟨bits, low, high, 0⟩ (.ofNat (0x80 + n)) =
      .completes (Char.ofNat (bits * 0x40 + n)) := by
  simp only [Demand.read, toNat_byte (show 0x80 + n < 0x100 by omega), above, below, and_self,
    if_true, Nat.add_sub_cancel_left]

theorem read_more {bits low high later n : Nat} (small : n < 0x40) (above : low ≤ 0x80 + n)
    (below : 0x80 + n ≤ high) :
    Demand.read ⟨bits, low, high, later + 1⟩ (.ofNat (0x80 + n)) =
      .goesOn ⟨bits * 0x40 + n, 0x80, 0xBF, later⟩ := by
  simp only [Demand.read, toNat_byte (show 0x80 + n < 0x100 by omega), above, below, and_self,
    if_true, Nat.add_sub_cancel_left]

theorem decodeFrom_single {byte : UInt8} {c : Char} (meaning : lead byte = .single c)
    (position : Nat) (rest : List UInt8) :
    decodeFrom position none (byte :: rest) =
      (decodeFrom (position + 1) none rest).map (c :: ·) := by
  simp only [decodeFrom, meaning]

theorem decodeFrom_opens {byte : UInt8} {demand : Demand} (meaning : lead byte = .opens demand)
    (position : Nat) (rest : List UInt8) :
    decodeFrom position none (byte :: rest) =
      decodeFrom (position + 1) (some ⟨position, byte, demand⟩) rest := by
  simp only [decodeFrom, meaning]

theorem decodeFrom_goesOn {seq : Opened} {byte : UInt8} {demand : Demand}
    (effect : seq.demand.read byte = .goesOn demand) (position : Nat) (rest : List UInt8) :
    decodeFrom position (some seq) (byte :: rest) =
      decodeFrom (position + 1) (some { seq with demand }) rest := by
  simp only [decodeFrom, effect]

theorem decodeFrom_completes {seq : Opened} {byte : UInt8} {c : Char}
    (effect : seq.demand.read byte = .completes c) (position : Nat) (rest : List UInt8) :
    decodeFrom position (some seq) (byte :: rest) =
      (decodeFrom (position + 1) none rest).map (c :: ·) := by
  simp only [decodeFrom, effect]

/-- The bytes of a character are read as that character, and reading goes on after them. -/
theorem decodeFrom_encodeChar (c : Char) (position : Nat) (rest : List UInt8) :
    decodeFrom position none (encodeChar c ++ rest) =
      (decodeFrom (position + (encodeChar c).length) none rest).map (c :: ·) := by
  have valid := toNat_valid c
  have same : Char.ofNat c.toNat = c := Char.ofNat_toNat c
  simp only [encodeChar]
  generalize c.toNat = n at valid same ⊢
  subst same
  by_cases one : n < 0x80
  · simp only [if_pos one, List.singleton_append, List.length_singleton]
    exact decodeFrom_single (lead_one one) position rest
  by_cases two : n < 0x800
  · simp only [if_neg one, if_pos two, List.cons_append, List.nil_append]
    rw [decodeFrom_opens (lead_two (by omega) two),
      decodeFrom_completes (read_last (by omega) (by omega) (by omega))]
    have bits : n / 0x40 * 0x40 + n % 0x40 = n := by omega
    rw [bits]
    rfl
  by_cases three : n < 0x10000
  · simp only [if_neg one, if_neg two, if_pos three, List.cons_append, List.nil_append]
    rw [decodeFrom_opens (lead_three (by omega) three),
      decodeFrom_goesOn (read_more (by omega) (by split <;> omega) (by split <;> omega)),
      decodeFrom_completes (read_last (by omega) (by omega) (by omega))]
    have bits : (n / 0x1000 * 0x40 + n / 0x40 % 0x40) * 0x40 + n % 0x40 = n := by omega
    rw [bits]
    rfl
  · simp only [if_neg one, if_neg two, if_neg three, List.cons_append, List.nil_append]
    rw [decodeFrom_opens (lead_four (by omega) (by omega)),
      decodeFrom_goesOn (read_more (by omega) (by split <;> omega) (by split <;> omega)),
      decodeFrom_goesOn (read_more (by omega) (by omega) (by omega)),
      decodeFrom_completes (read_last (by omega) (by omega) (by omega))]
    have bits : ((n / 0x40000 * 0x40 + n / 0x1000 % 0x40) * 0x40 + n / 0x40 % 0x40) * 0x40 +
        n % 0x40 = n := by omega
    rw [bits]
    rfl

theorem decodeFrom_encode (text : List Char) (position : Nat) :
    decodeFrom position none (encode text) = .ok text := by
  induction text generalizing position with
  | nil => rfl
  | cons c rest ih =>
      rw [encode, List.flatMap_cons, decodeFrom_encodeChar]
      exact congrArg (Except.map (c :: ·)) (ih _)

theorem decode_encode (text : List Char) : decode (encode text) = .ok text :=
  decodeFrom_encode text 0

end UriRouting.Utf8
