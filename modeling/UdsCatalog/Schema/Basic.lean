import UdsCatalog.Schema.Pattern.Search
import UdsCatalog.Schema.Violation

/-!
Schemas: rules about documents, and what a document does against them. Rules say nothing about values
of other types than their own, and all of them are checked, in order.
-/

namespace UdsCatalog

/-- What a schema demands. -/
inductive Schema where
  /-- Every value, or none, is allowed. -/
  | always (allowed : Bool)
  | all (rules : List Schema)
  /-- The value has one of the types. -/
  | types (wanted : List Schema.ValueType)
  | constant (expected : Json)
  | among (options : List Json)
  /-- Every item of an array obeys the schema. -/
  | eachItem (each : Schema)
  /-- The first items of an array obey the schemas, one for each. -/
  | leadingItems (each : List Schema)
  | minItems (limit : Nat)
  | maxItems (limit : Nat)
  | minLength (limit : Nat)
  | maxLength (limit : Nat)
  | minimum (limit : JsonNumber)
  | maximum (limit : JsonNumber)
  /-- The text of a pattern, and the pattern. -/
  | matching (source : String) (pattern : Schema.Pattern)
  | required (names : List String)
  /-- The named fields of an object obey their schemas, checked in the order of the schema. -/
  | properties (known : List (String × Schema))
  /-- The same in the order of the object, and there are no other fields. -/
  | onlyProperties (known : List (String × Schema))
  /-- The same in the order of the object, and the other fields obey a schema of their own. -/
  | propertiesOr (known : List (String × Schema)) (others : Schema)
  /-- An object has no fields at all; a field is reported in place of its object. -/
  | noProperties
  deriving Repr

namespace Schema

/-- Checks a value at a place. -/
abbrev Checker := List Json.Step → Json → List Violation

/-- One violation, or none. -/
def demand (holds : Bool) (place : List Json.Step) (value : Json) (complaint : Complaint) :
    List Violation :=
  if holds then [] else [⟨place, value, complaint⟩]

/-- Checks the items of an array, counted from the given index. -/
def checkItems (check : Checker) (place : List Json.Step) : Nat → List Json → List Violation
  | _, [] => []
  | index, item :: rest =>
    check (place ++ [.item index]) item ++ checkItems check place (index + 1) rest

/-- Checks the first items of an array, each in its own way. -/
def checkLeading (place : List Json.Step) : Nat → List Checker → List Json → List Violation
  | index, check :: checks, item :: rest =>
    check (place ++ [.item index]) item ++ checkLeading place (index + 1) checks rest
  -- Items behind the last schema are free, and schemas without an item are content.
  | _, _, _ => []

/-- Checks the known fields of an object, in the order in which they are known. -/
def checkKnown (place : List Json.Step) (fields : List (String × Json)) :
    List (String × Checker) → List Violation
  | [] => []
  | (name, check) :: known =>
    (match fields.lookup name with
      | some value => check (place ++ [.field name]) value
      -- A field that is not there is the business of another rule.
      | none => []) ++ checkKnown place fields known

/-- Checks the fields of an object in their order, unknown ones by the given checker. -/
def checkFields (place : List Json.Step) (known : List (String × Checker)) (others : Checker) :
    List (String × Json) → List Violation
  | [] => []
  | (name, value) :: rest =>
    -- Here the object leads, while above the schema does. The order of messages differs.
    ((known.lookup name).getD others) (place ++ [.field name]) value ++
      checkFields place known others rest

/-- The names of fields that are not known. -/
def unknownNames (known : List (String × Checker)) (fields : List (String × Json)) : List String :=
  (fields.map (·.1)).filter fun name => (known.lookup name).isNone

/-- Compares two numbers by value. -/
def compareNumbers (a b : JsonNumber) : Ordering :=
  let split : JsonNumber → Int × Nat
    | .int value => (value, 1)
    | .float value =>
      let (num, den) := value.fraction
      (if value.negative then -(num : Int) else num, den)
  let (num, den) := split a
  let (num', den') := split b
  -- Denominators are positive, so the products compare as the fractions do.
  compare (num * den') (num' * den)

/-- Two numbers are the same constant when they differ by less than the step behind one. -/
def isClose (a b : JsonNumber) : Bool :=
  let x := a.toBinary64.scaled
  let y := b.toBinary64.scaled
  -- The scale is the smallest step of all, and the bound is the step behind one on that scale.
  (x - y).natAbs < Nat.pow 2 (1074 - 52)

/-- A value is the expected constant. -/
def isConstant : Json → Json → Bool
  | .number expected, .number value => isClose expected value
  -- Numbers inside of arrays and objects are compared as all others are.
  | expected, value => expected.equal value

mutual

/-- What a value at a place does against a schema. -/
def check : Schema → Checker
  -- A schema that is no object either takes everything or nothing.
  | .always allowed, place, value => demand allowed place value .forbidden
  | .all rules, place, value => checkAll rules place value
  | .types wanted, place, value =>
    demand (wanted.any (·.holds value)) place value (.wrongType wanted)
  | .constant expected, place, value =>
    demand (isConstant expected value) place value (.notThe expected)
  | .among options, place, value =>
    demand (options.any fun option => value.equal option) place value (.notAmong options)
  | .eachItem each, place, value =>
    match value with
    | .array items => checkItems (check each) place 0 items
    | _ => []
  | .leadingItems each, place, value =>
    match value with
    | .array items => checkLeading place 0 (checkers each) items
    | _ => []
  | .minItems limit, place, value =>
    match value with
    | .array items => demand (limit ≤ items.length) place value (.tooFewItems limit)
    | _ => []
  | .maxItems limit, place, value =>
    match value with
    | .array items => demand (items.length ≤ limit) place value (.tooManyItems limit)
    | _ => []
  | .minLength limit, place, value =>
    match value with
    | .text text => demand (limit ≤ text.length) place value (.tooShort limit)
    | _ => []
  | .maxLength limit, place, value =>
    match value with
    | .text text => demand (text.length ≤ limit) place value (.tooLong limit)
    | _ => []
  | .minimum limit, place, value =>
    match value with
    | .number number => demand (compareNumbers number limit != .lt) place value (.tooSmall limit)
    | _ => []
  | .maximum limit, place, value =>
    match value with
    | .number number => demand (compareNumbers number limit != .gt) place value (.tooLarge limit)
    | _ => []
  -- A search that was given up is a violation too, but says so.
  | .matching source pattern, place, value =>
    match value with
    | .text text =>
      match pattern.examine text with
      | .matching => []
      | .differing => [⟨place, value, .noMatch source⟩]
      | .undecided => [⟨place, value, .notDecided⟩]
    | _ => []
  | .required names, place, value =>
    match value with
    | .object fields =>
      names.flatMap fun name => demand (fields.lookup name).isSome place value (.missing name)
    | _ => []
  | .properties known, place, value =>
    match value with
    | .object fields => checkKnown place fields (fieldCheckers known)
    | _ => []
  -- Unknown fields are named together at the end, at the place of the object.
  | .onlyProperties known, place, value =>
    match value with
    | .object fields =>
      let known := fieldCheckers known
      let unknown := unknownNames known fields
      checkFields place known (fun _ _ => []) fields ++
        demand unknown.isEmpty place value (.unexpected unknown)
    | _ => []
  | .propertiesOr known others, place, value =>
    match value with
    | .object fields => checkFields place (fieldCheckers known) (check others) fields
    | _ => []
  | .noProperties, place, value =>
    match value with
    -- The complaint is about the field, but its place is that of the object.
    | .object ((_, first) :: _) => demand false place first .forbidden
    | _ => []

/-- What a value at a place does against several schemas. -/
def checkAll : List Schema → Checker
  | [], _, _ => []
  | rule :: rules, place, value => check rule place value ++ checkAll rules place value

/-- A checker for each schema. -/
def checkers : List Schema → List Checker
  | [] => []
  | schema :: rest => check schema :: checkers rest

/-- A checker for each named schema. -/
def fieldCheckers : List (String × Schema) → List (String × Checker)
  | [] => []
  | (name, schema) :: rest => (name, check schema) :: fieldCheckers rest

end

/-- What a document does against a schema. -/
def violations (schema : Schema) (document : Json) : List Violation := schema.check [] document

end Schema

end UdsCatalog
