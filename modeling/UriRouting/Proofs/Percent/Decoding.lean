import Mathlib
import UriRouting.Proofs.Failure
import UriRouting.Proofs.Percent.Runs
import UriRouting.Proofs.Utf8.Fault

/-! # What can be decoded, and what cannot

A component stands for a text if each of its longest runs does. A run of ASCII characters stands for the
text whose UTF-8 bytes it holds once the escapes are read, and any other run for itself. So only an ASCII
run can be faulty, and the first one that is gives the fault, at a position among its own bytes.
-/

namespace UriRouting.Percent

def Run.StandsFor : Run → List Char → Prop
  | .ascii text, part => unescape text = Utf8.encode part
  | .other text, part => part = text

theorem Run.decode_eq_ok_iff {run : Run} {part : List Char} :
    run.decode = .ok part ↔ run.StandsFor part := by
  cases run with
  | ascii text => exact Utf8.decode_eq_ok_iff
  | other text =>
      constructor
      · intro read
        exact (Except.ok.inj read).symm
      · rintro rfl
        rfl

theorem Run.decode_eq_error_iff {run : Run} {fault : Utf8.Fault} :
    run.decode = .error fault ↔
      ∃ text, run = .ascii text ∧ Utf8.IsFault (unescape text) fault := by
  cases run with
  | ascii text => simp only [Run.decode, Utf8.decode_eq_error_iff, Run.ascii.injEq, exists_eq_left']
  | other text => simp [Run.decode]

theorem Run.exists_standsFor_iff {run : Run} :
    (∃ part, run.StandsFor part) ↔
      ∀ text, run = .ascii text → ∃ part, unescape text = Utf8.encode part := by
  cases run with
  | ascii text => simp [Run.StandsFor]
  | other text => simp [Run.StandsFor]

theorem decodeChars_eq_ok_iff {text plain : List Char} :
    decodeChars text = .ok plain ↔
      ∃ parts, List.Forall₂ Run.StandsFor (Run.split text) parts ∧ parts.flatten = plain := by
  simp only [decodeChars, map_eq_ok_iff, mapM_eq_ok_iff, Run.decode_eq_ok_iff]

theorem exists_decodeChars_iff {text : List Char} :
    (∃ plain, decodeChars text = .ok plain) ↔
      ∀ run ∈ Run.split text, ∃ part, run.StandsFor part := by
  rw [decodeChars, exists_map_eq_ok_iff, exists_mapM_eq_ok_iff]
  simp only [Run.decode_eq_ok_iff]

theorem decodeChars_eq_error_iff {text : List Char} {fault : Utf8.Fault} :
    decodeChars text = .error fault ↔ FirstFailure Run.decode (Run.split text) fault := by
  rw [decodeChars, map_eq_error_iff, mapM_eq_error_iff]

/-- Decoding accepts exactly the components whose ASCII runs hold UTF-8, and it gives what the runs stand
for. Otherwise it reports the fault of the first run that holds none. -/
theorem decode_exact (text : String) :
    ∃ runs, (∀ others, Run.AreMaximal others text.toList ↔ others = runs) ∧
      ((∃ plain, decode text = .ok plain) ↔
        ∀ ascii, .ascii ascii ∈ runs → ∃ part, unescape ascii = Utf8.encode part) ∧
      (∀ plain, decode text = .ok plain ↔
        ∃ parts, List.Forall₂ Run.StandsFor runs parts ∧ parts.flatten = plain.toList) ∧
      ∀ fault, decode text = .error fault ↔
        ∃ before ascii after, runs = before ++ .ascii ascii :: after ∧
          (∀ run ∈ before, ∃ part, run.StandsFor part) ∧
          Utf8.IsFault (unescape ascii) fault := by
  refine ⟨Run.split text.toList, fun _ => Run.areMaximal_iff, ?_, ?_, ?_⟩
  · rw [decode, exists_map_eq_ok_iff, exists_decodeChars_iff]
    constructor
    · intro fine ascii member
      exact fine _ member
    · intro fine run member
      rw [Run.exists_standsFor_iff]
      rintro ascii rfl
      exact fine ascii member
  · intro plain
    rw [decode, map_ofList_eq_ok_iff, decodeChars_eq_ok_iff]
  · intro fault
    rw [decode, map_eq_error_iff, decodeChars_eq_error_iff]
    simp only [FirstFailure, Run.decode_eq_ok_iff]
    constructor
    · rintro ⟨before, run, after, split, fine, fails⟩
      obtain ⟨ascii, rfl, located⟩ := Run.decode_eq_error_iff.mp fails
      exact ⟨before, ascii, after, split, fine, located⟩
    · rintro ⟨before, ascii, after, split, fine, located⟩
      have fails := Run.decode_eq_error_iff.mpr ⟨ascii, rfl, located⟩
      exact ⟨before, .ascii ascii, after, split, fine, fails⟩

/-- A character that stands there ends the run, and the positions begin again behind it. -/
example : decode "%41é%C3%A9%E2%82" = .error ⟨2, 3, 0xE2, .unexpectedEnd⟩ := by decide

end UriRouting.Percent
