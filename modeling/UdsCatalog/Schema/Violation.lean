import UdsCatalog.Json.Pointer
import UdsCatalog.Json.Printer

/-! What a document does against its schema. -/

namespace UdsCatalog.Schema

/-- The types that a schema can ask for, in the order in which messages list them. -/
inductive ValueType where
  | array
  | boolean
  | integer
  | null
  | number
  | object
  | text
  deriving DecidableEq, Repr

namespace ValueType

/-- Every type, in order. -/
def all : List ValueType := [.array, .boolean, .integer, .null, .number, .object, .text]

/-- The name of a type. -/
def name : ValueType → String
  | .array => "array"
  | .boolean => "boolean"
  | .integer => "integer"
  | .null => "null"
  | .number => "number"
  | .object => "object"
  | .text => "string"

/-- The type of a name. -/
def ofName? (name : String) : Option ValueType := all.find? (·.name == name)

/-- A value has a type. An integer is a number whose fraction is zero. -/
def holds : ValueType → Json → Bool
  | .array, .array _ => true
  | .boolean, .bool _ => true
  -- How a number is written makes no difference. A point with zeros behind it is an integer.
  | .integer, .number value => value.isIntegral
  | .null, .null => true
  | .number, .number _ => true
  | .object, .object _ => true
  | .text, .text _ => true
  | _, _ => false

end ValueType

/-- What is wrong with a value. -/
inductive Complaint where
  | wrongType (wanted : List ValueType)
  | missing (name : String)
  | unexpected (names : List String)
  | forbidden
  | tooFewItems (limit : Nat)
  | tooManyItems (limit : Nat)
  | tooShort (limit : Nat)
  | tooLong (limit : Nat)
  | noMatch (pattern : String)
  /-- It took too long to find out whether the value matches a pattern. -/
  | notDecided
  | notAmong (options : List Json)
  | notThe (expected : Json)
  | tooSmall (limit : JsonNumber)
  | tooLarge (limit : JsonNumber)
  /-- The value is no text of the named format. -/
  | notFormatted (format : String)
  | noneOfSeveral
  | repeated
  /-- A complaint in the words of another validator. -/
  | worded (text : String)
  deriving Repr

/-- A text between quotes as it stands. -/
def bareQuoted (text : String) : String := "\"" ++ text ++ "\""

/-- A count with its noun, of which there may be one. -/
def counted (count : Nat) (noun : String) : String :=
  toString count ++ " " ++ noun ++ (if count == 1 then "" else "s")

/-- The wording of a complaint about a value. -/
def Complaint.message (value : Json) : Complaint → String
  -- One type is named in the singular.
  | .wrongType [wanted] => value.compact ++ " is not of type " ++ bareQuoted wanted.name
  | .wrongType wanted =>
    value.compact ++ " is not of types " ++ ", ".intercalate (wanted.map fun t => bareQuoted t.name)
  -- The name is shown, and not the whole object.
  | .missing name => Json.textLiteral name ++ " is a required property"
  | .unexpected names =>
    "Additional properties are not allowed (" ++
      ", ".intercalate (names.map fun name => "'" ++ name ++ "'") ++
      (if names.length == 1 then " was unexpected)" else " were unexpected)")
  | .forbidden => "False schema does not allow " ++ value.compact
  | .tooFewItems limit => value.compact ++ " has less than " ++ counted limit "item"
  | .tooManyItems limit => value.compact ++ " has more than " ++ counted limit "item"
  | .tooShort limit => value.compact ++ " is shorter than " ++ counted limit "character"
  | .tooLong limit => value.compact ++ " is longer than " ++ counted limit "character"
  | .noMatch pattern => value.compact ++ " does not match " ++ bareQuoted pattern
  -- The value is not shown here, since the fault is not its own.
  | .notDecided => "Error executing regex: Max limit for backtracking count exceeded"
  | .notAmong options => value.compact ++ " is not one of " ++ (Json.array options).compact
  | .notThe expected => expected.compact ++ " was expected"
  | .tooSmall limit => value.compact ++ " is less than the minimum of " ++ limit.toText
  | .tooLarge limit => value.compact ++ " is greater than the maximum of " ++ limit.toText
  | .notFormatted format => value.compact ++ " is not a " ++ bareQuoted format
  | .noneOfSeveral =>
    value.compact ++ " is not valid under any of the schemas listed in the 'anyOf' keyword"
  | .repeated => value.compact ++ " has non-unique elements"
  | .worded text => text

/-- A complaint about a value at a place of a document. -/
structure Violation where
  place : List Json.Step
  value : Json
  complaint : Complaint
  deriving Repr

/-- The wording of a violation, without its place. -/
def Violation.reason (violation : Violation) : String := violation.complaint.message violation.value

/-- The wording of a violation; the root of a document is not named. -/
def Violation.message (violation : Violation) : String :=
  let place := Json.pointerText violation.place
  -- The pointer of the root is the empty text.
  if place == "" then violation.reason else violation.reason ++ " (at " ++ place ++ ")"

end UdsCatalog.Schema
