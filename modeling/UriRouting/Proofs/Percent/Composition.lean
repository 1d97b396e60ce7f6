import Mathlib
import UriRouting.Proofs.Percent.RoundTrip
import UriRouting.Proofs.Utf8.Fault

/-! # Decoding the parts of a component

A cut through a component is safe if there are not ASCII characters on both sides of it: then neither an
escape nor the bytes of a character can go across. The parts can be decoded one after the other, and the
first fault of the whole is that of the first faulty part.

Behind an encoded text the cut is not safe, since the ASCII characters that follow belong to the same run.
It makes no difference to what is decoded, but the positions in this run are counted from the beginning of
the encoded text.
-/

namespace UriRouting.Percent

/-- Whether a run of ASCII characters cannot go on from one text into the next. -/
def IsSafeCut (first second : List Char) : Prop :=
  ∀ last ∈ first.getLast?, ∀ next ∈ second.head?, isAscii last = true → isAscii next = false

def asciiLead (text : String) : String :=
  String.ofList (text.toList.takeWhile isAscii)

theorem isSafeCut_of_other {first second : List Char}
    (other : (∃ last ∈ first.getLast?, isAscii last = false) ∨
      ∃ next ∈ second.head?, isAscii next = false) : IsSafeCut first second := by
  intro last ended next begun ascii
  rcases other with ⟨_, found, beyond⟩ | ⟨_, found, beyond⟩
  · obtain rfl := Option.mem_unique ended found
    rw [ascii] at beyond
    cases beyond
  · obtain rfl := Option.mem_unique begun found
    exact beyond

theorem IsSafeCut.of_suffix {first rest second : List Char} (safe : IsSafeCut first second)
    (tail : rest <:+ first) : IsSafeCut rest second := by
  obtain ⟨front, rfl⟩ := tail
  intro last ended
  apply safe last
  rw [List.getLast?_append, Option.mem_def.mp ended]
  rfl

theorem isSafeCut_of_beyond {second : List Char} (beyond : ∀ next ∈ second.head?, isAscii next = false)
    (first : List Char) : IsSafeCut first second :=
  fun _ _ next found _ => beyond next found

theorem decodeChars_cons_other {c : Char} (other : isAscii c = false) (rest : List Char) :
    decodeChars (c :: rest) = do
      let later ← decodeChars rest
      return c :: later := by
  rcases Run.cons_cases c (Run.split rest) with ⟨text, later, runs, consed⟩ | ⟨-, consed⟩
  · rw [decodeChars, decodeChars, Run.split_cons, consed, runs, other]
    simp only [Run.ofSort, List.mapM_cons, Run.decode]
    cases later.mapM Run.decode <;> rfl
  · have runs : Run.split (c :: rest) = .other [c] :: Run.split rest := by
      rw [Run.split_cons, consed, other]
      rfl
    rw [decodeChars_of_split runs]
    cases decodeChars rest <;> rfl

/-- ASCII characters are decoded by themselves if the next character is another one. -/
theorem decodeChars_ascii_append {lead rest : List Char} (ascii : ∀ c ∈ lead, isAscii c = true)
    (safe : IsSafeCut lead rest) :
    decodeChars (lead ++ rest) = do
      let before ← decodeChars lead
      let after ← decodeChars rest
      return before ++ after := by
  by_cases filled : lead = []
  · subst filled
    exact (bind_pure (decodeChars rest)).symm
  · have apart : ∀ next ∈ (Run.split rest).head?, true ≠ next.ofAscii := by
      intro next first
      cases rest with
      | nil => cases first
      | cons c rest =>
          have last := List.getLast_mem filled
          have beyond := safe _ (List.getLast?_eq_getLast_of_ne_nil filled) c rfl (ascii _ last)
          rw [Run.ofAscii_of_mem_head? first, beyond]
          exact Bool.noConfusion
    rw [decodeChars_of_isAscii ascii]
    exact decodeChars_of_split (Run.split_append filled ascii apart)

theorem isAscii_of_mem_head?_dropWhile {text : List Char} {next : Char}
    (found : next ∈ (text.dropWhile isAscii).head?) : isAscii next = false := by
  have first := List.head?_dropWhile_not isAscii text
  rwa [Option.mem_def.mp found] at first

/-- A text is ASCII characters, or such characters in front of another one and a text behind it. -/
theorem leadInduction {motive : List Char → Prop}
    (ascii : ∀ lead, (∀ c ∈ lead, isAscii c = true) → motive lead)
    (other : ∀ lead c rest, (∀ c ∈ lead, isAscii c = true) → isAscii c = false → motive rest →
      motive (lead ++ c :: rest))
    (text : List Char) : motive text := by
  have lead : ∀ c ∈ text.takeWhile isAscii, isAscii c = true := fun _ => List.mem_takeWhile_imp
  have parts : text.takeWhile isAscii ++ text.dropWhile isAscii = text :=
    List.takeWhile_append_dropWhile
  cases behind : text.dropWhile isAscii with
  | nil =>
      rw [behind, List.append_nil] at parts
      exact parts ▸ ascii _ lead
  | cons c rest =>
      have first : c ∈ (text.dropWhile isAscii).head? := by
        rw [behind]
        rfl
      have beyond := isAscii_of_mem_head?_dropWhile first
      rw [behind] at parts
      have shorter : rest.length < text.length := by
        rw [← parts, List.length_append, List.length_cons]
        omega
      exact parts ▸ other _ c rest lead beyond (leadInduction ascii other rest)
termination_by text.length

theorem decodeChars_append {first second : List Char} (safe : IsSafeCut first second) :
    decodeChars (first ++ second) = do
      let before ← decodeChars first
      let after ← decodeChars second
      return before ++ after := by
  induction first using leadInduction with
  | ascii lead ascii => exact decodeChars_ascii_append ascii safe
  | other lead c rest ascii other ih =>
      have cut : ∀ later, IsSafeCut lead (c :: later) :=
        fun later => isSafeCut_of_beyond (by simpa using other) lead
      have tail : rest <:+ lead ++ c :: rest := (List.suffix_cons c rest).trans (List.suffix_append _ _)
      rw [List.append_assoc, List.cons_append, decodeChars_ascii_append ascii (cut _),
        decodeChars_ascii_append ascii (cut _), decodeChars_cons_other other,
        decodeChars_cons_other other, ih (safe.of_suffix tail)]
      simp only [bind_assoc, pure_bind, List.append_assoc, List.cons_append]

theorem decode_append {first second : String} (safe : IsSafeCut first.toList second.toList) :
    decode (first ++ second) = do
      let before ← decode first
      let after ← decode second
      return before ++ after := by
  rw [decode, decode, decode, String.toList_append, decodeChars_append safe]
  cases decodeChars first.toList with
  | error fault => rfl
  | ok before =>
      cases decodeChars second.toList with
      | error fault => rfl
      | ok after => exact congrArg Except.ok String.ofList_append

theorem decode_encode_append {lead : String} (ascii : ∀ c ∈ lead.toList, isAscii c = true)
    (text : String) :
    decode (encode text ++ lead) =
      ((decode lead).map (text ++ ·)).mapError (·.shift text.utf8ByteSize) := by
  have chars : (encode text).toList = encodeChars text.toList := String.toList_ofList
  have whole : ∀ c ∈ encodeChars text.toList ++ lead.toList, isAscii c = true := by
    intro c member
    rcases List.mem_append.mp member with written | inLead
    · exact isAscii_of_isWritten (isWritten_of_mem_encodeChars written)
    · exact ascii c inLead
  have size : (Utf8.encode text.toList).length = text.utf8ByteSize := by
    rw [Utf8.length_encode, ← String.utf8ByteSize_ofList, String.ofList_toList]
  rw [decode, decode, String.toList_append, chars, decodeChars_of_isAscii whole,
    decodeChars_of_isAscii ascii, unescape_encodeChars_append, Utf8.decode_encode_append, size]
  cases Utf8.decode (unescape lead.toList) with
  | error fault => rfl
  | ok plain =>
      apply congrArg Except.ok
      rw [String.ofList_append, String.ofList_toList]

/-- Whatever is put in front of a text, what follows its first ASCII characters is decoded by itself. -/
theorem exists_decode_tail (text : String) :
    ∃ tail, ∀ front, decode (front ++ text) = do
      let before ← decode (front ++ asciiLead text)
      let after ← decode tail
      return before ++ after := by
  refine ⟨String.ofList (text.toList.dropWhile isAscii), fun front => ?_⟩
  have parts : text = asciiLead text ++ String.ofList (text.toList.dropWhile isAscii) := by
    rw [asciiLead, ← String.ofList_append, List.takeWhile_append_dropWhile, String.ofList_toList]
  conv_lhs => rw [parts]
  rw [← String.append_assoc]
  apply decode_append
  apply isSafeCut_of_beyond
  rw [String.toList_ofList]
  exact fun _ => isAscii_of_mem_head?_dropWhile

/-- Decoding is compositional. At a safe cut the parts are decoded one after the other, and the first
fault is reported. In front of any text what was encoded is decoded to what it was. A fault of this text
is then found in the same run, and its position is shifted by the bytes of what was encoded if this run is
the one that has grown, the ASCII characters with which the text begins. -/
theorem decode_compositional :
    (∀ first second : String,
      (∃ last ∈ first.toList.getLast?, isAscii last = false) ∨
          (∃ next ∈ second.toList.head?, isAscii next = false) →
        decode (first ++ second) = do
          let before ← decode first
          let after ← decode second
          return before ++ after) ∧
    ∀ text rest : String,
      (∀ plain, decode (encode text ++ rest) = .ok plain ↔
        ∃ after, decode rest = .ok after ∧ text ++ after = plain) ∧
      ∀ fault, decode (encode text ++ rest) = .error fault ↔
        (∃ original, decode (asciiLead rest) = .error original ∧ decode rest = .error original ∧
          original.shift text.utf8ByteSize = fault) ∨
        (∃ before, decode (asciiLead rest) = .ok before) ∧ decode rest = .error fault := by
  constructor
  · intro first second other
    exact decode_append (isSafeCut_of_other other)
  intro text rest
  have ascii : ∀ c ∈ (asciiLead rest).toList, isAscii c = true := by
    rw [asciiLead, String.toList_ofList]
    exact fun _ => List.mem_takeWhile_imp
  obtain ⟨tail, split⟩ := exists_decode_tail rest
  have whole := split ""
  have joined := split (encode text)
  rw [String.empty_append, String.empty_append] at whole
  rw [decode_encode_append ascii] at joined
  rw [whole, joined]
  cases decode (asciiLead rest) with
  | error original => simp [bind, Except.bind, Except.map, Except.mapError]
  | ok before =>
      cases decode tail with
      | error fault => simp [bind, Except.bind, Except.map, Except.mapError]
      | ok after =>
          simp [bind, Except.bind, pure, Except.pure, Except.map, Except.mapError, String.append_assoc]

theorem decode_compositional_split :
    ((∃ last ∈ "%C3é".toList.getLast?, isAscii last = false) ∨
        ∃ next ∈ "%A9".toList.head?, isAscii next = false) ∧
      decode ("%C3é" ++ "%A9") = .error ⟨0, 0, 0xC3, .unexpectedEnd⟩ ∧
      decode (encode "ä" ++ "x%C3é%A9") = .error ⟨3, 3, 0xC3, .unexpectedEnd⟩ ∧
      decode (encode "ä" ++ "xé%A9") = .error ⟨0, 0, 0xA9, .invalidStart⟩ := by
  have safe : (∃ last ∈ "%C3é".toList.getLast?, isAscii last = false) ∨
      ∃ next ∈ "%A9".toList.head?, isAscii next = false := .inl ⟨'é', by decide, by decide⟩
  obtain ⟨parts, behind⟩ := decode_compositional
  refine ⟨safe, ?_, ?_, ?_⟩
  · rw [parts _ _ safe]
    decide
  · have lead : decode (asciiLead "x%C3é%A9") = .error ⟨1, 1, 0xC3, .unexpectedEnd⟩ := by decide
    exact ((behind "ä" "x%C3é%A9").2 _).mpr (.inl ⟨_, lead, by decide, by decide⟩)
  · exact ((behind "ä" "xé%A9").2 _).mpr (.inr ⟨⟨"x", by decide⟩, by decide⟩)

end UriRouting.Percent
