import UdsCatalog.Proofs.Catalog.Services
import UdsCatalog.Proofs.Numeral.Overflow
import UdsCatalog.Proofs.Text.Trimmed

/-!
Codes of services. A numeral is read as its number when this one is a byte, and is out of bound else. A
text that is no numeral is unreadable, unless it begins with a numeral that is too long for the reader.
-/

namespace UdsCatalog.Service

open Numeral (IsHexNumeral BeginsBeyond)
open Text (Trims)

variable {path : Files.Path} {record : Record.Service} {inner : List Char}

/-- The rejection of a record for its code, which is shown as it is written. -/
def rejectionOf (path : Files.Path) (record : Record.Service) (cause : Rejection.Cause) : Rejection :=
  ⟨cause, record.name, "Hex", record.hex, path⟩

/-- What becomes of a code is told by the form of its text, with the given characters between the blanks
around it: a numeral is read as its number or is out of bound, and all else is unreadable. -/
structure IsToldByForm (path : Files.Path) (record : Record.Service) (inner : List Char) : Prop where
  read : ∀ code, readCode path record = .ok code ↔ IsHexNumeral inner code ∧ code ≤ 0xFF
  outOfBound : readCode path record = .error (rejectionOf path record .outOfBound) ↔
    ∃ number, IsHexNumeral inner number ∧ 0xFF < number
  unreadable : readCode path record = .error (rejectionOf path record .unreadable) ↔
    ∀ number, ¬ IsHexNumeral inner number

/-- A code is read exactly from the numerals for bytes. -/
theorem readCode_eq_ok_iff_isHexNumeral (trims : Trims record.hex.toList inner) {code : Nat} :
    readCode path record = .ok code ↔ IsHexNumeral inner code ∧ code ≤ 0xFF := by
  -- A byte is far below the numbers at which the reader gives up.
  have bound : code < codeBound ↔ code ≤ 0xFF := Nat.lt_succ_iff
  rw [readCode_eq_ok_iff, bound, ← trims.eq_trim, Numeral.parseHex_eq_ok_iff, String.toList_ofList]
  constructor
  · rintro ⟨⟨numeral, -⟩, fits⟩
    exact ⟨numeral, fits⟩
  · rintro ⟨numeral, fits⟩
    exact ⟨⟨numeral, by omega⟩, fits⟩

/-- A code is out of bound exactly when it is read as a number beyond a byte, or is too long to be read. -/
theorem readCode_eq_outOfBound_iff_read (trims : Trims record.hex.toList inner) :
    readCode path record = .error (rejectionOf path record .outOfBound) ↔
      (∃ number, Numeral.parseHex 64 (String.ofList inner) = .ok number ∧ 0xFF < number) ∨
        Numeral.parseHex 64 (String.ofList inner) = .error .overflow := by
  -- The bound is the first number that takes more than a byte.
  have bound : ∀ number, number < codeBound ↔ ¬ 0xFF < number := fun _ => by
    rw [codeBound]
    omega
  rw [readCode, ← trims.eq_trim]
  -- Of the faults of the reader only the overflow is told as out of bound.
  cases Numeral.parseHex 64 (String.ofList inner) with
  | error fault => cases fault <;> simp [rejectionOf, codeField]
  | ok number => by_cases large : 0xFF < number <;> simp [bound, large, rejectionOf, codeField]

/-- A code is unreadable exactly when its text has a fault other than its length. -/
theorem readCode_eq_unreadable_iff_read (trims : Trims record.hex.toList inner) :
    readCode path record = .error (rejectionOf path record .unreadable) ↔
      ∃ fault ≠ NumeralError.overflow, Numeral.parseHex 64 (String.ofList inner) = .error fault := by
  rw [readCode, ← trims.eq_trim]
  cases Numeral.parseHex 64 (String.ofList inner) with
  | error fault => cases fault <;> simp [rejectionOf, codeField]
  | ok number => by_cases fits : number < codeBound <;> simp [fits, rejectionOf]

/-- A code is out of bound exactly when its text is a numeral for a number beyond a byte, or begins with a
numeral for one beyond 64 bits. -/
theorem readCode_eq_outOfBound_iff (trims : Trims record.hex.toList inner) :
    readCode path record = .error (rejectionOf path record .outOfBound) ↔
      (∃ number, IsHexNumeral inner number ∧ 0xFF < number) ∨ BeginsBeyond (2 ^ 64) inner := by
  simp only [readCode_eq_outOfBound_iff_read trims, Numeral.parseHex_eq_ok_iff,
    Numeral.parseHex_eq_overflow_iff, String.toList_ofList]
  constructor
  · rintro (⟨number, ⟨numeral, -⟩, large⟩ | beyond)
    · exact .inl ⟨number, numeral, large⟩
    · exact .inr beyond
  · rintro (⟨number, numeral, large⟩ | beyond)
    · -- A numeral that does not fit the reader begins with one that does not: itself.
      by_cases fits : number < 2 ^ 64
      · exact .inl ⟨number, ⟨numeral, fits⟩, large⟩
      · exact .inr (numeral.beginsBeyond_iff.mpr (Nat.not_lt.mp fits))
    · exact .inr beyond

/-- A code is unreadable exactly when its text is no numeral and begins with none beyond 64 bits. -/
theorem readCode_eq_unreadable_iff (trims : Trims record.hex.toList inner) :
    readCode path record = .error (rejectionOf path record .unreadable) ↔
      (∀ number, ¬ IsHexNumeral inner number) ∧ ¬ BeginsBeyond (2 ^ 64) inner := by
  rw [readCode_eq_unreadable_iff_read trims, Numeral.exists_fault_ne_overflow_iff, String.toList_ofList]

/-- What becomes of a code is told by the form of its text exactly when this is a numeral or does not begin
with one beyond 64 bits. -/
theorem isToldByForm_iff (trims : Trims record.hex.toList inner) :
    IsToldByForm path record inner ↔
      (∃ number, IsHexNumeral inner number) ∨ ¬ BeginsBeyond (2 ^ 64) inner := by
  constructor
  · intro told
    by_cases beyond : BeginsBeyond (2 ^ 64) inner
    · -- The code is out of bound, and by its form only numerals are.
      obtain ⟨number, numeral, -⟩ :=
        told.outOfBound.mp ((readCode_eq_outOfBound_iff trims).mpr (.inr beyond))
      exact .inl ⟨number, numeral⟩
    · exact .inr beyond
  · intro regular
    constructor
    case read => exact fun code => readCode_eq_ok_iff_isHexNumeral trims
    case outOfBound =>
      rw [readCode_eq_outOfBound_iff trims, or_iff_left_iff_imp]
      intro beyond
      -- A numeral that begins beyond 64 bits is one for a number that is beyond them, and beyond a byte.
      obtain ⟨number, numeral⟩ := regular.resolve_right (not_not.mpr beyond)
      have reaches := numeral.beginsBeyond_iff.mp beyond
      exact ⟨number, numeral, by omega⟩
    case unreadable =>
      rw [readCode_eq_unreadable_iff trims, and_iff_left_iff_imp]
      intro none
      exact regular.resolve_left fun ⟨number, numeral⟩ => none number numeral

/-- A code is read exactly from the numerals for bytes, with or without blanks around them. It is out of
bound exactly when its text is a numeral for a number beyond a byte or begins with one for a number beyond
64 bits, whatever follows there, and else it is unreadable. So what becomes of it is told by the form of its
text exactly when this is a numeral or does not begin with one beyond 64 bits. -/
theorem readCode_outcomes (path : Files.Path) (record : Record.Service) :
    ∃ inner, Trims record.hex.toList inner ∧
      (∀ code, readCode path record = .ok code ↔ IsHexNumeral inner code ∧ code ≤ 0xFF) ∧
      (readCode path record = .error (rejectionOf path record .outOfBound) ↔
        (∃ number, IsHexNumeral inner number ∧ 0xFF < number) ∨ BeginsBeyond (2 ^ 64) inner) ∧
      (readCode path record = .error (rejectionOf path record .unreadable) ↔
        (∀ number, ¬ IsHexNumeral inner number) ∧ ¬ BeginsBeyond (2 ^ 64) inner) ∧
      (IsToldByForm path record inner ↔
        (∃ number, IsHexNumeral inner number) ∨ ¬ BeginsBeyond (2 ^ 64) inner) := by
  have trims : Trims record.hex.toList (Text.trim record.hex.toList) := Text.trims_trim _
  exact ⟨_, trims, fun _ => readCode_eq_ok_iff_isHexNumeral trims, readCode_eq_outOfBound_iff trims,
    readCode_eq_unreadable_iff trims, isToldByForm_iff trims⟩

/-- Sixteen digits and one more, with a letter behind them that is none, are no numeral, and yet they are
out of bound. -/
theorem readCode_mistakes_malformed :
    let record : Record.Service := ⟨"a", "", " 0x10000000000000000G", "", ""⟩
    ∃ inner, Trims record.hex.toList inner ∧ (∀ number, ¬ IsHexNumeral inner number) ∧
      readCode "serv.json" record =
        .error ⟨.outOfBound, "a", "Hex", " 0x10000000000000000G", "serv.json"⟩ ∧
      ¬ IsToldByForm "serv.json" record inner := by
  intro record
  have trims : Trims record.hex.toList (Text.trim record.hex.toList) := Text.trims_trim _
  have rejected : readCode "serv.json" record = .error (rejectionOf "serv.json" record .outOfBound) := by
    decide +kernel
  -- A reader for larger numbers meets the letter.
  have read : Numeral.parseHex 128 (String.ofList (Text.trim record.hex.toList)) = .error .invalidDigit := by
    decide +kernel
  have none : ∀ number, ¬ IsHexNumeral (Text.trim record.hex.toList) number := by
    intro number numeral
    rw [← String.toList_ofList (l := Text.trim record.hex.toList)] at numeral
    rw [numeral.parseHex_eq] at read
    split at read <;> cases read
  refine ⟨_, trims, none, rejected, fun told => ?_⟩
  obtain ⟨number, numeral, -⟩ := told.outOfBound.mp rejected
  exact none number numeral

end UdsCatalog.Service
