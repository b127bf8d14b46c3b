import UdsCatalog.Proofs.Catalog.Rejections
import UdsCatalog.Proofs.Catalog.Values

/-!
Values that are too large. A code of a service is out of bound however long its numeral is, but a value of
a sub-function is only told apart from a text that is no numeral as long as it fits 32 bits.
-/

namespace UdsCatalog

open Numeral (IsHexNumeral)

namespace SubFunction

/-- The rejection of a record for its values. -/
def rejectionOf (path : Files.Path) (record : Record.SubFunction) (cause : Rejection.Cause) : Rejection :=
  ⟨cause, record.name, "Bit6to0", record.values, path⟩

/-- The rejection of a record is told by the form of its values, with the given parts: they are unreadable
exactly when one of the parts is no numeral, and out of bound exactly when both are numerals, of any
length, for numbers that are out of order or beyond a byte. -/
structure IsToldByForm (path : Files.Path) (record : Record.SubFunction) (first last : List Char) :
    Prop where
  unreadable : ofRecord path record = .error (rejectionOf path record .unreadable) ↔
    (∀ number, ¬ IsHexNumeral first number) ∨ ∀ number, ¬ IsHexNumeral last number
  outOfBound : ofRecord path record = .error (rejectionOf path record .outOfBound) ↔
    ∃ start stop, IsHexNumeral first start ∧ IsHexNumeral last stop ∧ (stop < start ∨ 0xFF < stop)

/-- A record is rejected as what is wrong with its values. -/
theorem ofRecord_eq_rejectionOf_iff {path : Files.Path} {record : Record.SubFunction}
    {cause : Rejection.Cause} :
    ofRecord path record = .error (rejectionOf path record cause) ↔
      valuesFault? record.values = some cause := by
  rw [← rejection?_eq_some_iff, rejection?_ofRecord, inspection, Inspection.rejection?, rejectionOf]
  simp

/-- Values are unreadable exactly when one of their parts is no numeral for a number of 32 bits. -/
theorem valuesFault?_eq_unreadable_iff {values : String} :
    valuesFault? values = some .unreadable ↔
      (∀ start < 2 ^ 32, ¬ IsHexNumeral (bounds values).1.toList start) ∨
        ∀ stop < 2 ^ 32, ¬ IsHexNumeral (bounds values).2.toList stop := by
  -- Either part alone makes the values unreadable, and two that are read are at worst out of bound.
  rw [← Numeral.exists_parseHex_eq_error_iff, ← Numeral.exists_parseHex_eq_error_iff, valuesFault?]
  cases Numeral.parseHex 32 (bounds values).1 with
  | error fault => simp
  | ok start =>
    cases Numeral.parseHex 32 (bounds values).2 with
    | error fault => simp
    | ok stop => by_cases fits : start ≤ stop ∧ stop ≤ 255 <;> simp [fits]

/-- Values are out of bound exactly when both parts are numerals for numbers of 32 bits that are out of
order or beyond a byte. -/
theorem valuesFault?_eq_outOfBound_iff {values : String} :
    valuesFault? values = some .outOfBound ↔
      ∃ start < 2 ^ 32, ∃ stop < 2 ^ 32, IsHexNumeral (bounds values).1.toList start ∧
        IsHexNumeral (bounds values).2.toList stop ∧ (stop < start ∨ 0xFF < stop) := by
  constructor
  · -- Both parts were read before their numbers were looked at.
    unfold valuesFault?
    intro fault
    split at fault
    next start stop first last =>
      obtain ⟨startNumeral, startFits⟩ := Numeral.parseHex_eq_ok_iff.mp first
      obtain ⟨stopNumeral, stopFits⟩ := Numeral.parseHex_eq_ok_iff.mp last
      have outside : ¬ (start ≤ stop ∧ stop ≤ 255) := fun fits => by simp [fits] at fault
      exact ⟨start, startFits, stop, stopFits, startNumeral, stopNumeral, by omega⟩
    next => cases fault
  · rintro ⟨start, startFits, stop, stopFits, first, last, outside⟩
    have fits : ¬ (start ≤ stop ∧ stop ≤ 255) := by omega
    simp only [valuesFault?, Numeral.parseHex_eq_ok_iff.mpr ⟨first, startFits⟩,
      Numeral.parseHex_eq_ok_iff.mpr ⟨last, stopFits⟩, if_neg fits]

/-- A rejection is told by the form of the values exactly when both numbers fit 32 bits, if both parts are
numerals. -/
theorem isToldByForm_iff {path : Files.Path} {record : Record.SubFunction} {first last : List Char}
    (parts : Parts record.values.toList first last) :
    IsToldByForm path record first last ↔ ∀ start stop, IsHexNumeral first start →
      IsHexNumeral last stop → start < 2 ^ 32 ∧ stop < 2 ^ 32 := by
  obtain ⟨rfl, rfl⟩ := parts_iff.mp parts
  constructor
  · intro told start stop first last
    -- With one of them beyond 32 bits the values would be unreadable, though both parts are numerals.
    by_contra beyond
    have unreadable : ofRecord path record = .error (rejectionOf path record .unreadable) := by
      rw [ofRecord_eq_rejectionOf_iff, valuesFault?_eq_unreadable_iff]
      rcases not_and_or.mp beyond with large | large
      · exact .inl fun number fits numeral => large (numeral.unique first ▸ fits)
      · exact .inr fun number fits numeral => large (numeral.unique last ▸ fits)
    rcases told.unreadable.mp unreadable with none | none
    · exact none start first
    · exact none stop last
  · intro fits
    constructor
    case unreadable =>
      rw [ofRecord_eq_rejectionOf_iff, valuesFault?_eq_unreadable_iff]
      constructor
      · -- If both were numerals, both numbers would fit, and the values would be read.
        intro unfit
        by_contra numerals
        simp only [not_or, not_forall, not_not] at numerals
        obtain ⟨⟨start, first⟩, stop, last⟩ := numerals
        obtain ⟨startFits, stopFits⟩ := fits start stop first last
        exact unfit.elim (fun none => none start startFits first) fun none => none stop stopFits last
      · -- What is no numeral at all is none for a number of 32 bits.
        exact Or.imp (fun none number _ => none number) fun none number _ => none number
    case outOfBound =>
      rw [ofRecord_eq_rejectionOf_iff, valuesFault?_eq_outOfBound_iff]
      constructor
      · rintro ⟨start, -, stop, -, first, last, outside⟩
        exact ⟨start, stop, first, last, outside⟩
      · rintro ⟨start, stop, first, last, outside⟩
        obtain ⟨startFits, stopFits⟩ := fits start stop first last
        exact ⟨start, startFits, stop, stopFits, first, last, outside⟩

end SubFunction

/-- A code that is a numeral for a number beyond a byte is out of bound, however long the numeral is. -/
theorem Service.readCode_of_isHexNumeral {record : Record.Service} {number : Nat}
    (numeral : IsHexNumeral (Text.trim record.hex.toList) number) (beyond : 0xFF < number)
    (path : Files.Path) :
    readCode path record = .error ⟨.outOfBound, record.name, "Hex", record.hex, path⟩ := by
  -- A number that does not fit the reader is as much out of bound as one that is read and too large.
  have bound : ¬ number < codeBound := by
    rw [codeBound]
    omega
  rw [← String.toList_ofList (l := Text.trim record.hex.toList)] at numeral
  rw [readCode, numeral.parseHex_eq]
  by_cases fits : number < 2 ^ 64
  · simp only [if_pos fits, if_neg bound, codeField]
  · simp only [if_neg fits, codeField]

namespace SubFunction

/-- A record is rejected as unreadable exactly when a part of its values is no numeral for a number of 32
bits, and as out of bound exactly when both are and the numbers are out of order or beyond a byte. So the
rejection tells whether the parts are numerals exactly when they are not both numerals of which one is
beyond 32 bits. A code of a service that is beyond a byte is out of bound in any case. -/
theorem ofRecord_rejections (path : Files.Path) (record : Record.SubFunction) :
    (∃ first last, Parts record.values.toList first last ∧
      (ofRecord path record = .error (rejectionOf path record .unreadable) ↔
        (∀ start < 2 ^ 32, ¬ IsHexNumeral first start) ∨ ∀ stop < 2 ^ 32, ¬ IsHexNumeral last stop) ∧
      (ofRecord path record = .error (rejectionOf path record .outOfBound) ↔
        ∃ start < 2 ^ 32, ∃ stop < 2 ^ 32, IsHexNumeral first start ∧ IsHexNumeral last stop ∧
          (stop < start ∨ 0xFF < stop)) ∧
      (IsToldByForm path record first last ↔
        ∀ start stop, IsHexNumeral first start → IsHexNumeral last stop →
          start < 2 ^ 32 ∧ stop < 2 ^ 32)) ∧
    ∀ (path : Files.Path) (record : Record.Service) (number : Nat),
      IsHexNumeral (Text.trim record.hex.toList) number → 0xFF < number →
        Service.readCode path record = .error ⟨.outOfBound, record.name, "Hex", record.hex, path⟩ := by
  have parts : Parts record.values.toList _ _ := parts_iff.mpr ⟨rfl, rfl⟩
  refine ⟨⟨_, _, parts, ?_, ?_, isToldByForm_iff parts⟩, ?_⟩
  · rw [ofRecord_eq_rejectionOf_iff, valuesFault?_eq_unreadable_iff]
  · rw [ofRecord_eq_rejectionOf_iff, valuesFault?_eq_outOfBound_iff]
  · exact fun path record number numeral beyond => Service.readCode_of_isHexNumeral numeral beyond path

/-- A value of nine digits is a numeral of base sixteen, and it is rejected as unreadable. A service whose
code is longer still is out of bound. -/
theorem ofRecord_mistakes_magnitude :
    let record : Record.SubFunction := ⟨"a", "x", "100000000", "", "", ""⟩
    ∃ first last, Parts record.values.toList first last ∧
      IsHexNumeral first 0x100000000 ∧ IsHexNumeral last 0x100000000 ∧
      ofRecord "serv_sub.json" record = .error ⟨.unreadable, "x", "Bit6to0", "100000000", "serv_sub.json"⟩ ∧
      ¬ IsToldByForm "serv_sub.json" record first last ∧
      Service.readCode "serv.json" ⟨"a", "", "10000000000000000", "", ""⟩ =
        .error ⟨.outOfBound, "a", "Hex", "10000000000000000", "serv.json"⟩ := by
  intro record
  have whole : bounds record.values = (record.values, record.values) := by decide +kernel
  have parts : Parts record.values.toList record.values.toList record.values.toList := by
    simp [parts_iff, whole]
  -- A reader for larger numbers shows that the text is a numeral.
  have read : Numeral.parseHex 64 record.values = .ok 0x100000000 := by decide +kernel
  have numeral : IsHexNumeral record.values.toList 0x100000000 := (Numeral.parseHex_eq_ok_iff.mp read).1
  refine ⟨_, _, parts, numeral, numeral, by decide +kernel, fun told => ?_, by decide +kernel⟩
  have fits := ((isToldByForm_iff parts).mp told _ _ numeral numeral).1
  exact absurd fits (by decide)

end SubFunction

end UdsCatalog
