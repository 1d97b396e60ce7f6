import Mathlib
import UriRouting.Proofs.Utf8.Strictness

/-! # Where bytes stop being a text

Bytes that are no text have a first place where no character stands. What is wrong there can be said
without the reader: the longest run of bytes from this place that could still have become a character is
too short to be one. Either no character begins with the first byte, or the bytes end, or the byte that
comes next cannot continue what was begun.

The induction is over the bytes behind the first one of a character, with the demand left open. A demand
can always be met, so whatever the reader has accepted so far is the beginning of some character.
-/

namespace UriRouting.Utf8

def Begins (bytes : List UInt8) : Prop :=
  ∃ c, bytes <+: encodeChar c

/-- The longest beginning of bytes that begins a character. It may be empty. -/
structure IsLongestStart (start bytes : List UInt8) : Prop where
  initial : start <+: bytes
  begins : Begins start
  longest : ∀ other, other <+: bytes → Begins other → other.length ≤ start.length

/-- A fault says where no character stands, and how far the bytes there could have become one. -/
structure IsFault (bytes : List UInt8) (fault : Fault) : Prop where
  before : ∃ text, bytes.take fault.first = encode text
  inside : fault.first ≤ fault.last ∧ fault.last < bytes.length
  byte : bytes[fault.first]? = some fault.byte
  broken : ∀ c, ¬ encodeChar c <+: bytes.drop fault.first
  range : ∃ start, IsLongestStart start (bytes.drop fault.first) ∧
    (start = [] ∧ fault.last = fault.first ∧ fault.reason = .invalidStart ∨
      start ≠ [] ∧ fault.last + 1 = fault.first + start.length ∧
        fault.reason =
          if fault.last + 1 = bytes.length then .unexpectedEnd else .invalidContinuation)

def Demand.IsOpen (demand : Demand) : Prop :=
  demand.low ≤ demand.high ∧ demand.high < 0x100

theorem isOpen_of_lead {byte : UInt8} {demand : Demand} (meaning : lead byte = .opens demand) :
    demand.IsOpen := by
  rcases lead_eq_opens meaning with ⟨-, -, rfl⟩ | ⟨-, -, rfl⟩ | ⟨-, -, rfl⟩
  · simp [Demand.IsOpen]
  · constructor <;> dsimp only <;> split_ifs <;> omega
  · constructor <;> dsimp only <;> split_ifs <;> omega

theorem isOpen_of_read {demand next : Demand} {byte : UInt8}
    (effect : demand.read byte = .goesOn next) : next.IsOpen := by
  obtain ⟨bits, low, high, later⟩ := demand
  obtain ⟨above, below⟩ := bounds_of_read (by rw [effect]; exact Continuation.noConfusion)
  rw [read_of_bounds above below] at effect
  cases later with
  | zero => cases effect
  | succ later =>
      obtain rfl := Continuation.goesOn.inj effect
      simp [Demand.IsOpen]

theorem exists_completes {demand : Demand} (opened : demand.IsOpen) :
    ∃ more c, Completes demand more c := by
  obtain ⟨bits, low, high, later⟩ := demand
  induction later generalizing bits low high with
  | zero =>
      obtain ⟨bounds, small⟩ := opened
      have value : (UInt8.ofNat low).toNat = low := toNat_byte (Nat.lt_of_le_of_lt bounds small)
      exact ⟨_, _, .last (read_of_bounds (Nat.le_of_eq value.symm) (value.symm ▸ bounds))⟩
  | succ later ih =>
      obtain ⟨bounds, small⟩ := opened
      have value : (UInt8.ofNat low).toNat = low := toNat_byte (Nat.lt_of_le_of_lt bounds small)
      have effect : Demand.read ⟨bits, low, high, later + 1⟩ (.ofNat low) = .goesOn _ :=
        read_of_bounds (Nat.le_of_eq value.symm) (value.symm ▸ bounds)
      obtain ⟨more, c, done⟩ := ih _ _ _ (isOpen_of_read effect)
      exact ⟨_, c, .more effect done⟩

/-- The bytes that meet the demand of a first byte are those of a character behind it. -/
theorem completes_iff {byte : UInt8} {demand : Demand} (meaning : lead byte = .opens demand)
    {more : List UInt8} {c : Char} : Completes demand more c ↔ encodeChar c = byte :: more := by
  constructor
  · exact encodeChar_of_completes meaning
  · intro spelled
    have read := decodeFrom_encodeChar c 0 []
    rw [List.append_nil, spelled, decodeFrom_opens meaning] at read
    obtain ⟨bytes, rest, other, later, next, rfl, done, same, after⟩ := completes_of_decodeFrom read
    obtain ⟨rfl, rfl⟩ := List.cons.inj same
    obtain rfl := encode_of_decodeFrom after
    rwa [encode, List.flatMap_nil, List.append_nil]

theorem begins_nil : Begins [] :=
  ⟨default, List.nil_prefix⟩

theorem begins_cons_iff {byte : UInt8} {demand : Demand} (meaning : lead byte = .opens demand)
    {start : List UInt8} :
    Begins (byte :: start) ↔ ∃ more c, Completes demand (start ++ more) c := by
  constructor
  · rintro ⟨c, more, spelled⟩
    exact ⟨more, c, (completes_iff meaning).mpr spelled.symm⟩
  · rintro ⟨more, c, done⟩
    exact ⟨c, more, ((completes_iff meaning).mp done).symm⟩

theorem not_begins_of_invalid {byte : UInt8} (meaning : lead byte = .invalid)
    (start : List UInt8) : ¬ Begins (byte :: start) := by
  rintro ⟨c, more, spelled⟩
  have read := decodeFrom_encodeChar c 0 []
  rw [List.append_nil, ← spelled] at read
  simp only [List.cons_append, decodeFrom, meaning] at read
  cases read

theorem Completes.of_goesOn {demand next : Demand} {byte : UInt8} {later : List UInt8} {c : Char}
    (done : Completes demand (byte :: later) c) (effect : demand.read byte = .goesOn next) :
    Completes next later c := by
  cases done with
  | last completed =>
      rw [effect] at completed
      cases completed
  | more taken rest =>
      rw [effect] at taken
      obtain rfl := Continuation.goesOn.inj taken
      exact rest

theorem Completes.read_ne_refused {demand : Demand} {byte : UInt8} {later : List UInt8} {c : Char}
    (done : Completes demand (byte :: later) c) : demand.read byte ≠ .refused := by
  intro effect
  cases done with
  | last completed =>
      rw [effect] at completed
      cases completed
  | more taken =>
      rw [effect] at taken
      cases taken

theorem decodeFrom_of_not_completes {demand : Demand} (opened : demand.IsOpen) {bytes : List UInt8}
    (stuck : ∀ more c, Completes demand more c → ¬ more <+: bytes) :
    ∃ start, start <+: bytes ∧ (∃ more c, Completes demand (start ++ more) c) ∧
      (∀ other, other <+: bytes → (∃ more c, Completes demand (other ++ more) c) →
        other.length ≤ start.length) ∧
      ∀ position first byte, decodeFrom position (some ⟨first, byte, demand⟩) bytes =
        .error ⟨first, position + start.length - 1, byte,
          if start.length = bytes.length then .unexpectedEnd else .invalidContinuation⟩ := by
  induction bytes generalizing demand with
  | nil =>
      refine ⟨[], List.nil_prefix, exists_completes opened, ?_, fun _ _ _ => rfl⟩
      intro other initial _
      exact initial.length_le
  | cons next bytes ih =>
      cases effect : demand.read next with
      | completes c =>
          exact absurd (List.prefix_append [next] bytes) (stuck [next] c (.last effect))
      | goesOn demand' =>
          have later : ∀ more c, Completes demand' more c → ¬ more <+: bytes := by
            intro more c done initial
            apply stuck (next :: more) c (.more effect done)
            exact (List.prefix_cons_inj next).mpr initial
          obtain ⟨start, initial, ⟨more, c, done⟩, longest, read⟩ :=
            ih (isOpen_of_read effect) later
          refine ⟨next :: start, (List.prefix_cons_inj next).mpr initial,
            ⟨more, c, .more effect done⟩, ?_, ?_⟩
          · rintro (_ | ⟨_, other⟩) inside ⟨more, c, done⟩
            · exact Nat.zero_le _
            · obtain ⟨rfl, tail⟩ := List.cons_prefix_cons.mp inside
              apply Nat.succ_le_succ
              exact longest other tail ⟨more, c, done.of_goesOn effect⟩
          · intro position first byte
            have last : position + 1 + start.length = position + (next :: start).length := by
              rw [List.length_cons]
              omega
            rw [decodeFrom_goesOn effect, read, last]
            simp
      | refused =>
          refine ⟨[], List.nil_prefix, exists_completes opened, ?_, ?_⟩
          · rintro (_ | ⟨_, other⟩) inside ⟨more, c, done⟩
            · exact Nat.le_refl _
            · obtain ⟨rfl, -⟩ := List.cons_prefix_cons.mp inside
              exact absurd effect done.read_ne_refused
          · intro position first byte
            simp only [decodeFrom, effect]
            rfl

theorem IsLongestStart.eq {start other bytes : List UInt8} (first : IsLongestStart start bytes)
    (second : IsLongestStart other bytes) : start = other := by
  have same : start.length = other.length :=
    Nat.le_antisymm (second.longest start first.initial first.begins)
      (first.longest other second.initial second.begins)
  rw [List.prefix_iff_eq_take.mp first.initial, List.prefix_iff_eq_take.mp second.initial, same]

/-- The fault of bytes with which no character begins: `start` is their longest beginning that could have
become one. -/
def faultAt (position : Nat) (byte : UInt8) (start bytes : List UInt8) : Fault :=
  ⟨position, position + (start.length - 1), byte,
    if start = [] then .invalidStart
    else if start.length = bytes.length then .unexpectedEnd else .invalidContinuation⟩

/-- Where no character begins, the reader stops with the fault of the longest beginning. -/
theorem decodeFrom_of_broken {byte : UInt8} {bytes : List UInt8}
    (broken : ∀ c, ¬ encodeChar c <+: byte :: bytes) :
    ∃ start, IsLongestStart start (byte :: bytes) ∧ ∀ position,
      decodeFrom position none (byte :: bytes) =
        .error (faultAt position byte start (byte :: bytes)) := by
  cases meaning : lead byte with
  | invalid =>
      refine ⟨[], ⟨List.nil_prefix, begins_nil, ?_⟩, ?_⟩
      · rintro (_ | ⟨first, other⟩) initial begins
        · exact Nat.le_refl _
        · obtain ⟨rfl, -⟩ := List.cons_prefix_cons.mp initial
          exact absurd begins (not_begins_of_invalid meaning other)
      · intro position
        simp only [decodeFrom, meaning]
        rfl
  | single c =>
      obtain ⟨small, rfl⟩ := lead_eq_single meaning
      have spelled := encodeChar_one small
      rw [UInt8.ofNat_toNat] at spelled
      apply absurd _ (broken (Char.ofNat byte.toNat))
      rw [spelled]
      exact List.prefix_append [byte] bytes
  | opens demand =>
      have stuck : ∀ more c, Completes demand more c → ¬ more <+: bytes := by
        intro more c done initial
        apply broken c
        rw [(completes_iff meaning).mp done]
        exact (List.prefix_cons_inj byte).mpr initial
      obtain ⟨start, initial, begun, longest, read⟩ :=
        decodeFrom_of_not_completes (isOpen_of_lead meaning) stuck
      refine ⟨byte :: start, ⟨(List.prefix_cons_inj byte).mpr initial,
        (begins_cons_iff meaning).mpr begun, ?_⟩, ?_⟩
      · rintro (_ | ⟨_, other⟩) inside begins
        · exact Nat.zero_le _
        · obtain ⟨rfl, tail⟩ := List.cons_prefix_cons.mp inside
          apply Nat.succ_le_succ
          exact longest other tail ((begins_cons_iff meaning).mp begins)
      · intro position
        have last : position + 1 + start.length - 1 = position + start.length := by omega
        rw [decodeFrom_opens meaning, read, last]
        simp [faultAt]

theorem decodeFrom_encode_append (text : List Char) (position : Nat) (rest : List UInt8) :
    decodeFrom position none (encode text ++ rest) =
      (decodeFrom (position + (encode text).length) none rest).map (text ++ ·) := by
  induction text generalizing position with
  | nil =>
      change decodeFrom position none rest = (decodeFrom position none rest).map id
      cases decodeFrom position none rest <;> rfl
  | cons c text ih =>
      rw [encode, List.flatMap_cons, ← encode, List.append_assoc, decodeFrom_encodeChar, ih,
        List.length_append, Nat.add_assoc]
      cases decodeFrom (position + ((encodeChar c).length + (encode text).length)) none rest <;> rfl

theorem encodeChar_ne_nil (c : Char) : encodeChar c ≠ [] := by
  simp only [encodeChar]
  split_ifs <;> exact List.cons_ne_nil _ _

theorem length_encodeChar (c : Char) : (encodeChar c).length = c.utf8Size := by
  have value : c.toNat = c.val.toNat := rfl
  simp only [encodeChar, Char.utf8Size, UInt32.le_iff_toNat_le, UInt32.toNat_ofNatLT, value]
  split_ifs <;> first | rfl | omega

theorem length_encode (text : List Char) : (encode text).length = String.utf8Len text := by
  induction text with
  | nil => rfl
  | cons c rest ih =>
      rw [encode, List.flatMap_cons, List.length_append, ← encode, ih, length_encodeChar,
        String.utf8Len_cons, Nat.add_comm]

/-- Bytes are a text up to the first place where no character stands. -/
theorem exists_encode_append (bytes : List UInt8) :
    ∃ text rest, bytes = encode text ++ rest ∧ ∀ c, ¬ encodeChar c <+: rest := by
  by_cases broken : ∀ c, ¬ encodeChar c <+: bytes
  · exact ⟨[], bytes, rfl, broken⟩
  · obtain ⟨c, rest, rfl⟩ := not_forall_not.mp broken
    have shorter : rest.length < (encodeChar c ++ rest).length := by
      have filled := List.length_pos_iff.mpr (encodeChar_ne_nil c)
      rw [List.length_append]
      omega
    obtain ⟨text, tail, split, broken⟩ := exists_encode_append rest
    refine ⟨c :: text, tail, ?_, broken⟩
    rw [split, encode, encode, List.flatMap_cons, List.append_assoc]
termination_by bytes.length

/-- A fault is that of the longest beginning at the first place where no character stands. -/
theorem IsFault.exists_faultAt {bytes : List UInt8} {fault : Fault} (located : IsFault bytes fault) :
    ∃ text byte rest start, bytes = encode text ++ byte :: rest ∧
      (∀ c, ¬ encodeChar c <+: byte :: rest) ∧ IsLongestStart start (byte :: rest) ∧
      fault = faultAt (encode text).length byte start (byte :: rest) := by
  obtain ⟨first, last, byte, reason⟩ := fault
  obtain ⟨text, before⟩ := located.before
  obtain ⟨within, found⟩ := List.getElem?_eq_some_iff.mp located.byte
  have behind : bytes.drop first = byte :: bytes.drop (first + 1) := by
    rw [List.drop_eq_getElem_cons within, found]
  have length : (encode text).length = first := by
    rw [← before, List.length_take]
    exact Nat.min_eq_left (Nat.le_of_lt within)
  have whole : bytes = encode text ++ byte :: bytes.drop (first + 1) := by
    rw [← before, ← behind, List.take_append_drop]
  obtain ⟨start, isLongest, range⟩ := located.range
  rw [behind] at isLongest
  refine ⟨text, byte, bytes.drop (first + 1), start, whole, behind ▸ located.broken, isLongest, ?_⟩
  rw [length]
  rcases range with ⟨rfl, same, reasoned⟩ | ⟨filled, same, reasoned⟩
  · dsimp only at same reasoned
    rw [same, reasoned]
    rfl
  · dsimp only at same reasoned
    have count := congrArg List.length whole
    rw [List.length_append, length] at count
    have positive := List.length_pos_iff.mpr filled
    have ends : (last + 1 = bytes.length) =
        (start.length = (byte :: bytes.drop (first + 1)).length) := propext (by omega)
    have lastByte : last = first + (start.length - 1) := by omega
    rw [faultAt, if_neg filled, reasoned, ← lastByte]
    simp only [ends]

theorem isFault_faultAt {byte : UInt8} {rest start : List UInt8}
    (broken : ∀ c, ¬ encodeChar c <+: byte :: rest) (isLongest : IsLongestStart start (byte :: rest))
    (text : List Char) :
    IsFault (encode text ++ byte :: rest)
      (faultAt (encode text).length byte start (byte :: rest)) := by
  have short := isLongest.initial.length_le
  rw [List.length_cons] at short
  refine ⟨⟨text, List.take_left⟩, ?_, ?_, ?_, start, ?_, ?_⟩
  · simp only [faultAt, List.length_append, List.length_cons]
    omega
  · simp [faultAt]
  · simpa [faultAt] using broken
  · simpa [faultAt] using isLongest
  · by_cases filled : start = []
    · exact .inl ⟨filled, by simp [faultAt, filled], by simp [faultAt, filled]⟩
    · have positive := List.length_pos_iff.mpr filled
      refine .inr ⟨filled, ?_, ?_⟩
      · simp only [faultAt]
        omega
      · simp only [faultAt, if_neg filled, List.length_append, List.length_cons]
        congr 1
        exact propext (by omega)

theorem exists_decode_of_broken {byte : UInt8} {rest : List UInt8}
    (broken : ∀ c, ¬ encodeChar c <+: byte :: rest) :
    ∃ start, IsLongestStart start (byte :: rest) ∧ ∀ text,
      decode (encode text ++ byte :: rest) =
        .error (faultAt (encode text).length byte start (byte :: rest)) := by
  obtain ⟨start, isLongest, read⟩ := decodeFrom_of_broken broken
  refine ⟨start, isLongest, fun text => ?_⟩
  rw [decode, decodeFrom_encode_append, read, Nat.zero_add]
  rfl

theorem decode_eq_error_iff {bytes : List UInt8} {fault : Fault} :
    decode bytes = .error fault ↔ IsFault bytes fault := by
  constructor
  · intro failed
    obtain ⟨text, rest, rfl, broken⟩ := exists_encode_append bytes
    cases rest with
    | nil =>
        rw [List.append_nil, decode_encode] at failed
        cases failed
    | cons byte rest =>
        obtain ⟨start, isLongest, read⟩ := exists_decode_of_broken broken
        obtain rfl := Except.error.inj (failed.symm.trans (read text))
        exact isFault_faultAt broken isLongest text
  · intro located
    obtain ⟨text, byte, rest, start, rfl, broken, isLongest, rfl⟩ := located.exists_faultAt
    obtain ⟨other, otherLongest, read⟩ := exists_decode_of_broken broken
    rw [read, isLongest.eq otherLongest]

/-- The same fault, in bytes that have more in front. -/
def Fault.shift (fault : Fault) (more : Nat) : Fault :=
  { fault with first := fault.first + more, last := fault.last + more }

theorem shift_faultAt (position more : Nat) (byte : UInt8) (start bytes : List UInt8) :
    (faultAt position byte start bytes).shift more =
      faultAt (more + position) byte start bytes := by
  simp only [Fault.shift, faultAt, Nat.add_comm more, Nat.add_right_comm]

theorem decode_encode_append (text : List Char) (bytes : List UInt8) :
    decode (encode text ++ bytes) =
      ((decode bytes).map (text ++ ·)).mapError (·.shift (encode text).length) := by
  obtain ⟨other, rest, rfl, broken⟩ := exists_encode_append bytes
  have joined : encode text ++ encode other = encode (text ++ other) := List.flatMap_append.symm
  rw [← List.append_assoc, joined]
  cases rest with
  | nil =>
      rw [List.append_nil, List.append_nil, decode_encode, decode_encode]
      rfl
  | cons byte rest =>
      obtain ⟨start, -, read⟩ := exists_decode_of_broken broken
      have shifted := shift_faultAt (encode other).length (encode text).length byte start (byte :: rest)
      rw [← List.length_append, joined] at shifted
      rw [read, read, ← shifted]
      rfl

end UriRouting.Utf8
