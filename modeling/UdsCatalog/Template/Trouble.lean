import UdsCatalog.Json.Printer
import UdsCatalog.Template.Description

/-! What can go wrong while a template is rendered. -/

namespace UdsCatalog.Template

/-- What stands in for a number without being one. -/
inductive NonNumber where
  | text (value : String)
  | bool (value : Bool)
  | joined (parts : String)
  | condition
  | list
  deriving Repr

/-- What can go wrong while a template is rendered. -/
inductive Trouble where
  | unknownName (text template : String)
  /-- The reference has indices; the text with their values in place is told as well. -/
  | unknownItem (text template evaluated : String)
  | unusableIndex (text : String) (cause : String)
  | wrongIndex (index text : String)
  | unknownFilter (name : String)
  | unknownFunction (name : String)
  /-- A call of a function failed; the cause is not always told. -/
  | functionFailed (name : String) (cause : Option Trouble)
  /-- What a function tells in its own words. -/
  | told (message : String)
  /-- A function gave something else than a truth value where that was wanted. -/
  | noTruthFrom (function : String)
  | noNumberFrom (function : String)
  /-- A filter failed; the cause is not always told. -/
  | filterFailed (name : String) (cause : Option Trouble)
  /-- A filter for texts got something else. -/
  | textExpected (filter : String) (got : Json)
  | textWanted (filter : String) (got : Json)
  | noLength
  | notIterable (container : String)
  | keyWithoutObject (container : String)
  | objectWithoutKey (container : String)
  | wrongContainer (description : String)
  /-- A loop is told how to go on where there is none. -/
  | outsideLoop (word : String)
  | notInText (description : String)
  | notInObject (description : String)
  | noContainer
  | notJoinable (text : String)
  | notJoinableFrom (function : String)
  | noNumber (text : String)
  | noNumberBehindFilter
  | nonNumber (what : NonNumber)
  | comparedToNothing
  | outOfBounds (left : Int) (op : String) (right : Int) (type : String)
  | moduloZero (left right : String)
  | unknownTemplate (name : String)
  | extendsInside (parent : String)
  | tooDeep
  deriving Repr

mutual

/-- A value as messages about it describe it. -/
def describeValue : Json → String
  | .null => "Null"
  | .bool value => "Bool(" ++ boolWord value ++ ")"
  | .number value => "Number(" ++ value.toText ++ ")"
  | .text value => "String(" ++ Text.quoted value ++ ")"
  -- Only the innermost values stand between parentheses.
  | .array items => "Array [" ++ ", ".intercalate (describeValues items) ++ "]"
  | .object fields => "Object \x7b" ++ ", ".intercalate (describeFields fields) ++ "\x7d"

/-- Several values as messages describe them. -/
def describeValues : List Json → List String
  | [] => []
  | item :: rest => describeValue item :: describeValues rest

/-- Several fields as messages describe them. -/
def describeFields : List (String × Json) → List String
  | [] => []
  | (name, value) :: rest => (Text.quoted name ++ ": " ++ describeValue value) :: describeFields rest

end

/-- The wording of what stands in for a number. -/
def NonNumber.message : NonNumber → String
  | .text value => "a string: \x60" ++ value ++ "\x60"
  | .bool value => "a boolean: \x60" ++ boolWord value ++ "\x60"
  | .joined parts => "a string concatenation: " ++ parts
  | .condition => "a logical expression"
  | .list => "an array"

/-- The wording of a trouble, without its cause. -/
def Trouble.message : Trouble → String
  | .unknownName text template =>
    "Variable \x60" ++ text ++ "\x60 not found in context while rendering '" ++ template ++ "'"
  | .unknownItem text template evaluated =>
    "Variable \x60" ++ text ++ "\x60 not found in context while rendering '" ++ template ++
      "': the evaluated version was \x60" ++ evaluated ++ "\x60. Maybe the index is out of bounds?"
  | .unusableIndex text cause => "Variable " ++ text ++ " can not be evaluated because: " ++ cause
  | .wrongIndex index text =>
    "Only variables evaluating to String or Number can be used as index (\x60" ++ index ++
      "\x60 of \x60" ++ text ++ "\x60)"
  | .unknownFilter name => "Filter '" ++ name ++ "' not found"
  | .unknownFunction name => "Function '" ++ name ++ "' not found"
  -- The cause has a line of its own in the chain.
  | .functionFailed name _ => "Function call '" ++ name ++ "' failed"
  | .told message => message
  | .noTruthFrom function =>
    "Function \x60" ++ function ++ "\x60 was used in a logic expression but is not returning a boolean"
  | .noNumberFrom function =>
    "Function \x60" ++ function ++ "\x60 was used in a math operation but is not returning a number"
  | .filterFailed name _ => "Filter call '" ++ name ++ "' failed"
  | .textExpected filter got => "Filter \x60" ++ filter ++ "\x60 expects a string, got " ++ got.compact
  | .textWanted filter got =>
    "Filter \x60" ++ filter ++ "\x60 was called on an incorrect value: got \x60" ++ got.compact ++
      "\x60 but expected a String"
  | .noLength =>
    "Filter \x60length\x60 was used on a value that isn't an array, an object, or a string."
  | .notIterable container =>
    "Tried to iterate on a container (\x60" ++ container ++ "\x60) that has a unsupported type"
  | .keyWithoutObject container =>
    "Tried to iterate using key value on variable \x60" ++ container ++ "\x60, but it isn't an object/map"
  | .objectWithoutKey container =>
    "Tried to iterate using key value on variable \x60" ++ container ++ "\x60, but it is missing a key"
  | .wrongContainer description =>
    "Forloop containers have to be an ident or a function call (tried to iterate on '" ++
      description ++ "')"
  | .outsideLoop word => "Attempted \x60" ++ word ++ "\x60 while not in \x60for loop\x60"
  | .notInText description =>
    "Tried to check if " ++ description ++ " is in a string, but it isn't a string"
  | .notInObject description =>
    "Tried to check if " ++ description ++ " is in a object, but it isn't a string"
  | .noContainer => "The \x60in\x60 operator only supports strings, arrays and objects."
  | .notJoinable text =>
    "Tried to concat a value that is not a string or a number from ident " ++ text
  | .notJoinableFrom function =>
    "Tried to concat a value that is not a string or a number from function call " ++ function
  | .noNumber text =>
    "Variable \x60" ++ text ++ "\x60 was used in a math operation but is not a number"
  | .noNumberBehindFilter => "Tried to do math with an expression not resulting in a number"
  | .nonNumber what => "Tried to do math with " ++ what.message
  | .comparedToNothing => "Comparison to NaN"
  | .outOfBounds left op right type =>
    toString left ++ " " ++ op ++ " " ++ toString right ++ " results in an out of bounds " ++ type
  | .moduloZero left right => "Tried to do a modulo by zero: " ++ left ++ "/" ++ right
  | .unknownTemplate name => "Template '" ++ name ++ "' not found"
  | .extendsInside parent =>
    "Inheritance in included templates is currently not supported: extended \x60" ++ parent ++ "\x60"
  | .tooDeep => "Templates are included too deeply"

/-- A trouble without its cause. -/
def Trouble.alone : Trouble → Trouble
  -- No other trouble has a cause.
  | .functionFailed name _ => .functionFailed name none
  | .filterFailed name _ => .filterFailed name none
  | other => other

/-- The wordings of a trouble and of its causes, outermost first. -/
def Trouble.chain : Trouble → List String
  -- An argument that failed may hold a failed call or a failed filter in turn.
  | .functionFailed name (some cause) => (Trouble.functionFailed name (some cause)).message :: cause.chain
  | .filterFailed name (some cause) => (Trouble.filterFailed name (some cause)).message :: cause.chain
  | other => [other.message]

end UdsCatalog.Template
