import UdsCatalog.Record.Malformed

/-!
Forms of records: which fields a record has and what may stand in them. A record is written as an
object, or as the bare sequence of its fields.
-/

namespace UdsCatalog.Record

/-- What may stand in a field. -/
inductive FieldKind where
  | text
  /-- A text or nothing. -/
  | optionalText
  /-- An integer that fits 32 bits without a sign. -/
  | word
  deriving DecidableEq, Repr

/-- Integers of a word field stay below this bound. -/
def wordBound : Int := 0x1_0000_0000

/-- Checks what stands in a field. -/
def FieldKind.check : FieldKind → Json → Except Malformed Unit
  | .text, .text _ => .ok ()
  | .text, other => .error (.wrongShape (.of other) "a string")
  | .optionalText, .null => .ok ()
  | .optionalText, .text _ => .ok ()
  | .optionalText, other => .error (.wrongShape (.of other) "a string")
  -- A number that is written with a fraction is no integer, not even when the fraction is zero.
  | .word, .number (.int value) =>
    if 0 ≤ value ∧ value < wordBound then .ok () else .error (.outOfRange value "u32")
  | .word, other => .error (.wrongShape (.of other) "u32")

/-- The form of a record. -/
structure Form where
  /-- The name of the form in messages. -/
  title : String
  fields : List (String × FieldKind)
  /-- Fields counted from this one on may be missing. -/
  required : Nat

/-- Checks the fields of an object in their order; unknown ones are passed over. -/
def Form.checkFields (form : Form) : List (String × Json) → Except Malformed Unit
  | [] => .ok ()
  | (name, value) :: rest =>
    -- The object's own order decides which of several wrong values is reported.
    match form.fields.lookup name with
    | none => form.checkFields rest
    | some kind =>
      match kind.check value with
      | .ok () => form.checkFields rest
      | .error malformed => .error malformed

/-- Names the items of a sequence after the fields. -/
def Form.nameItems (form : Form) (length : Nat) :
    Nat → List (String × FieldKind) → List Json → Except Malformed (List (String × Json))
  | _, [], [] => .ok []
  | _, [], _ :: _ => .error (.tooLong length)
  | index, _ :: _, [] =>
    -- What is missing at the end must be optional, and then the fields just end here.
    if index < form.required then .error (.tooShort index form.title form.fields.length) else .ok []
  | index, (name, kind) :: fields, value :: rest =>
    match kind.check value with
    | .error malformed => .error malformed
    | .ok () =>
      match form.nameItems length (index + 1) fields rest with
      | .ok named => .ok ((name, value) :: named)
      | .error malformed => .error malformed

/-- The fields of a value in the given form, each of the right kind. -/
def Form.read (form : Form) : Json → Except Malformed (List (String × Json))
  | .object fields =>
    -- Missing fields are not noticed here, but only when their values are taken out.
    match form.checkFields fields with
    | .ok () => .ok fields
    | .error malformed => .error malformed
  -- In a sequence the fields stand in the order of the form.
  | .array items => form.nameItems items.length 0 form.fields items
  | other => .error (.wrongShape (.of other) form.title)

/-- The text in a required field. -/
def textIn (fields : List (String × Json)) (name : String) : Except Malformed String :=
  match fields.lookup name with
  | none => .error (.missingField name)
  | some (.text value) => .ok value
  -- The check of the form has ruled this out, but the value is still there to be named.
  | some other => .error (.wrongShape (.of other) "a string")

/-- The text in a field that may be missing or empty. -/
def optionalTextIn (fields : List (String × Json)) (name : String) : Except Malformed (Option String) :=
  match fields.lookup name with
  | none | some .null => .ok none
  | some (.text value) => .ok (some value)
  | some other => .error (.wrongShape (.of other) "a string")

/-- The integer in a required field. -/
def wordIn (fields : List (String × Json)) (name : String) : Except Malformed Nat :=
  match fields.lookup name with
  | none => .error (.missingField name)
  | some (.number (.int value)) =>
    if 0 ≤ value ∧ value < wordBound then .ok value.toNat else .error (.outOfRange value "u32")
  | some other => .error (.wrongShape (.of other) "u32")

end UdsCatalog.Record
