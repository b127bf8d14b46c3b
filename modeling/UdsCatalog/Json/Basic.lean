import UdsCatalog.Numeral.Shortest

/-! Documents: values, how the fields of an object are kept, and when two values are equal. -/

namespace UdsCatalog

/-- A number of a document. One written without fraction and exponent is an integer. -/
inductive JsonNumber where
  | int (value : Int)
  | float (value : Binary64)
  deriving DecidableEq, Repr

/-- A value of a document. The fields of an object stand in the order of their names. -/
inductive Json where
  | null
  | bool (value : Bool)
  | number (value : JsonNumber)
  | text (value : String)
  | array (items : List Json)
  | object (fields : List (String × Json))
  deriving Repr

/-- The binary number nearest to a number of a document. -/
def JsonNumber.toBinary64 : JsonNumber → Binary64
  | .int value => .ofInt value
  | .float value => value

/-- The text of a number of a document. -/
def JsonNumber.toText : JsonNumber → String
  | .int value => toString value
  | .float value => value.documentText

/-- The number is an integer, however it is written. -/
def JsonNumber.isIntegral : JsonNumber → Bool
  | .int _ => true
  | .float value => value.isIntegral

namespace Json

instance : Inhabited Json := ⟨.null⟩

/-- Puts a field in its place among fields in the order of their names; a field of the same name is
replaced. -/
def insertField (name : String) (value : Json) : List (String × Json) → List (String × Json)
  | [] => [(name, value)]
  | (other, kept) :: rest =>
    -- The order of names makes objects with the same fields the same value.
    if name < other then (name, value) :: (other, kept) :: rest
    else if name == other then (name, value) :: rest
    else (other, kept) :: insertField name value rest

/-- An object of the given fields; of two fields of one name the later counts. -/
def ofFields (fields : List (String × Json)) : Json :=
  .object (fields.foldl (fun done (name, value) => insertField name value done) [])

/-- An integer as a value. -/
def int (value : Int) : Json := .number (.int value)

/-- The value of a field of an object. -/
def get? (name : String) : Json → Option Json
  | .object fields => fields.lookup name
  | _ => none

/-- The same kind of value with the same content. A number written as an integer differs from the
same number written with a fraction. -/
def same : Json → Json → Bool
  | .null, .null => true
  | .bool a, .bool b => a == b
  | .number a, .number b => sameNumber a b
  | .text a, .text b => a == b
  | .array a, .array b => sameItems a b
  -- Fields are kept in the order of their names, so they are compared one by one.
  | .object a, .object b => sameFields a b
  | _, _ => false
where
  /-- Zeros of both signs are the same number. -/
  sameNumber : JsonNumber → JsonNumber → Bool
    | .int a, .int b => a == b
    | .float a, .float b => a == b || (a.isZero && b.isZero)
    | _, _ => false
  sameItems : List Json → List Json → Bool
    | [], [] => true
    | a :: as, b :: bs => a.same b && sameItems as bs
    | _, _ => false
  sameFields : List (String × Json) → List (String × Json) → Bool
    | [], [] => true
    | (m, a) :: as, (n, b) :: bs => m == n && a.same b && sameFields as bs
    | _, _ => false

/-- Two numbers are equal when the binary numbers nearest to them are. -/
def equalNumbers (a b : JsonNumber) : Bool :=
  let x := a.toBinary64
  let y := b.toBinary64
  -- The two zeros are different binary numbers, but equal.
  x == y || (x.isZero && y.isZero)

/-- Equal values: numbers count by value, not by the way they are written. -/
def equal : Json → Json → Bool
  | .null, .null => true
  | .bool a, .bool b => a == b
  | .number a, .number b => equalNumbers a b
  | .text a, .text b => a == b
  | .array a, .array b => equalItems a b
  | .object a, .object b => equalFields a b
  | _, _ => false
where
  equalItems : List Json → List Json → Bool
    | [], [] => true
    | a :: as, b :: bs => a.equal b && equalItems as bs
    | _, _ => false
  equalFields : List (String × Json) → List (String × Json) → Bool
    | [], [] => true
    | (m, a) :: as, (n, b) :: bs => m == n && a.equal b && equalFields as bs
    | _, _ => false

end Json

end UdsCatalog
