import UdsCatalog.Proofs.Catalog.Fields
import UdsCatalog.Proofs.Numeral.Signed
import UdsCatalog.Proofs.Text.Trimmed

/-!
Sizes of fields. A size is known exactly when its text is a decimal numeral for a number of 64 bits, so a
numeral for any other number counts as unknown.
-/

namespace UdsCatalog.LayoutField

open Numeral (IsSigned FitsInt64)
open Text (Trims)

variable {path : Files.Path} {record : Record.Layout} {field : LayoutField} {inner : List Char}

/-- The size of a field is told by the form of its text, with the given characters between the blanks around
it: it is unknown when these are no decimal numeral, and else it is the number, of whatever length, with the
text as the record has it. -/
structure IsSizedByForm (record : Record.Layout) (inner : List Char) (field : LayoutField) : Prop where
  unknown : (field.size = none ∧ field.sizeText = "") ↔ ∀ number, ¬ IsSigned 10 inner number
  known : ∀ number, IsSigned 10 inner number → field.size = some number ∧ field.sizeText = record.size

/-- The size of a field is a number exactly when its text is a numeral for it and it fits 64 bits. -/
theorem size_eq_some_iff (described : Describes record field) (trims : Trims record.size.toList inner)
    {number : Int} : field.size = some number ↔ IsSigned 10 inner number ∧ FitsInt64 number := by
  rw [described.size, ← trims.eq_trim, Numeral.readInt64?_eq_some_iff]

/-- The size of a field is unknown exactly when its text is no numeral for a number of 64 bits. -/
theorem size_eq_none_iff (described : Describes record field) (trims : Trims record.size.toList inner) :
    field.size = none ↔ ∀ number, FitsInt64 number → ¬ IsSigned 10 inner number := by
  rw [Option.eq_none_iff_forall_ne_some]
  refine forall_congr' fun number => ?_
  rw [Ne, size_eq_some_iff described trims, and_comm, not_and]

/-- The size of a field is told by the form of its text exactly when this is a numeral for no number beyond
64 bits. -/
theorem isSizedByForm_iff (described : Describes record field) (trims : Trims record.size.toList inner) :
    IsSizedByForm record inner field ↔ ∀ number, IsSigned 10 inner number → FitsInt64 number := by
  have text := described.sizeText
  constructor
  · -- A size that is known has been read.
    intro told number numeral
    exact ((size_eq_some_iff described trims).mp (told.known number numeral).1).2
  · intro fits
    -- The other way, every numeral fits, so each size that is written is read.
    have known : ∀ number, IsSigned 10 inner number → field.size = some number := fun number numeral =>
      (size_eq_some_iff described trims).mpr ⟨numeral, fits number numeral⟩
    constructor
    case unknown =>
      constructor
      -- A numeral would have made the size known.
      · rintro ⟨unknown, -⟩ number numeral
        rw [known number numeral] at unknown
        cases unknown
      · intro none
        have unknown := (size_eq_none_iff described trims).mpr fun number _ => none number
        rw [unknown] at text
        exact ⟨unknown, text⟩
    case known =>
      intro number numeral
      rw [known number numeral] at text
      exact ⟨known number numeral, text⟩

/-- Of a record that is accepted the size is known exactly when its text, with or without blanks around it, is
a decimal numeral for a number of 64 bits. Then it is this number and has the text of the record, and else it
has none. So the size is told by the form of its text exactly when this is a numeral for no other number. -/
theorem ofRecord_size (accepted : ofRecord path record = .ok field) :
    ∃ inner, Trims record.size.toList inner ∧
      (∀ number, field.size = some number ↔ IsSigned 10 inner number ∧ FitsInt64 number) ∧
      (field.size = none ↔ ∀ number, FitsInt64 number → ¬ IsSigned 10 inner number) ∧
      (field.sizeText = if field.size.isSome then record.size else "") ∧
      (IsSizedByForm record inner field ↔ ∀ number, IsSigned 10 inner number → FitsInt64 number) := by
  have described : Describes record field := ofRecord_eq_ok_iff.mp accepted
  have trims : Trims record.size.toList (Text.trim record.size.toList) := Text.trims_trim _
  exact ⟨_, trims, fun _ => size_eq_some_iff described trims, size_eq_none_iff described trims,
    described.sizeText, isSizedByForm_iff described trims⟩

/-- A plus sign, a zero in front and blanks around it do not count in the size, but stay in its text. -/
theorem ofRecord_size_padded :
    let record : Record.Layout := ⟨"c", "p", "Req", 1, " +04 ", none⟩
    ∃ field inner, ofRecord "req_resp.json" record = .ok field ∧ Trims record.size.toList inner ∧
      IsSigned 10 inner 4 ∧ field.size = some 4 ∧ field.sizeText = " +04 " := by
  intro record
  have accepted : ofRecord "req_resp.json" record = .ok ⟨"p", .request, 0, " +04 ", some 4, ""⟩ := by
    decide +kernel
  -- The numeral is found from the size, since the size is known to come from one.
  obtain ⟨inner, trims, known, -, text, -⟩ := ofRecord_size accepted
  exact ⟨_, inner, accepted, trims, ((known 4).mp rfl).1, rfl, text⟩

/-- The first number beyond 64 bits has a numeral like any other, and yet a field with this size has none. -/
theorem ofRecord_loses_size :
    let record : Record.Layout := ⟨"c", "p", "Req", 1, "9223372036854775808", none⟩
    ∃ field inner, ofRecord "req_resp.json" record = .ok field ∧ Trims record.size.toList inner ∧
      IsSigned 10 inner 9223372036854775808 ∧ field.size = none ∧
      ¬ IsSizedByForm record inner field := by
  intro record
  have accepted : ofRecord "req_resp.json" record = .ok ⟨"p", .request, 0, "", none, ""⟩ := by
    decide +kernel
  have trims : Trims record.size.toList (Text.trim record.size.toList) := Text.trims_trim _
  -- A reader for larger numbers shows that the text is a numeral.
  have read : Numeral.readUnsigned 10 (2 ^ 64) (Text.trim record.size.toList) = .ok 9223372036854775808 := by
    decide +kernel
  have numeral : IsSigned 10 (Text.trim record.size.toList) 9223372036854775808 :=
    .unsigned (Numeral.isUnsigned_of_readUnsigned read)
  refine ⟨_, _, accepted, trims, numeral, rfl, fun told => ?_⟩
  cases (told.known _ numeral).1

end UdsCatalog.LayoutField
