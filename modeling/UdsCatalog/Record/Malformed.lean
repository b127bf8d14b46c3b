import UdsCatalog.Json.Printer

/-! Why a value of a document is not the record that is wanted. -/

namespace UdsCatalog.Record

/-- What a value is, as a message names it. -/
inductive Shape where
  | integer (value : Int)
  | float (value : Binary64)
  | boolean (value : Bool)
  | text (value : String)
  | null
  | sequence
  | map
  deriving Repr

/-- The shape of a value. -/
def Shape.of : Json → Shape
  | .null => .null
  | .bool value => .boolean value
  | .number (.int value) => .integer value
  | .number (.float value) => .float value
  | .text value => .text value
  | .array _ => .sequence
  | .object _ => .map

/-- The wording of a shape. -/
def Shape.message : Shape → String
  | .integer value => "integer \x60" ++ toString value ++ "\x60"
  | .float value => "floating point \x60" ++ value.documentText ++ "\x60"
  | .boolean value => "boolean \x60" ++ (if value then "true" else "false") ++ "\x60"
  | .text value => "string " ++ Text.quoted value
  | .null => "null"
  | .sequence => "sequence"
  | .map => "map"

/-- Why a value is not the record that is wanted. -/
inductive Malformed where
  | wrongShape (found : Shape) (expected : String)
  | outOfRange (value : Int) (expected : String)
  | missingField (name : String)
  /-- A sequence ends before the fields do. -/
  | tooShort (length : Nat) (expected : String) (elements : Nat)
  /-- A sequence goes on behind the last field. -/
  | tooLong (length : Nat)
  deriving Repr

/-- The wording of a malformed record. -/
def Malformed.message : Malformed → String
  | .wrongShape found expected => "invalid type: " ++ found.message ++ ", expected " ++ expected
  | .outOfRange value expected =>
    "invalid value: " ++ (Shape.integer value).message ++ ", expected " ++ expected
  | .missingField name => "missing field \x60" ++ name ++ "\x60"
  | .tooShort length expected elements =>
    "invalid length " ++ toString length ++ ", expected " ++ expected ++ " with " ++
      -- The number of elements decides between singular and plural.
      toString elements ++ (if elements == 1 then " element" else " elements")
  | .tooLong length =>
    "invalid length " ++ toString length ++ ", expected fewer elements in array"

end UdsCatalog.Record
