/-! What can be wrong with the text of a document, and where. -/

namespace UdsCatalog.Json

/-- What is wrong with the text of a document. -/
inductive Complaint where
  | endInValue
  | endInObject
  | endInList
  | endInText
  | expectedValue
  | expectedWord
  | expectedColon
  | expectedListEnd
  | expectedObjectEnd
  | expectedKey
  | trailingComma
  | trailingCharacters
  | invalidNumber
  | numberOutOfRange
  | invalidEscape
  | controlCharacter
  | loneSurrogate
  | unfinishedPair
  | tooDeep
  deriving DecidableEq, Repr

/-- The wording of a complaint. -/
def Complaint.message : Complaint → String
  | .endInValue => "EOF while parsing a value"
  | .endInObject => "EOF while parsing an object"
  | .endInList => "EOF while parsing a list"
  | .endInText => "EOF while parsing a string"
  | .expectedValue => "expected value"
  | .expectedWord => "expected ident"
  | .expectedColon => "expected \x60:\x60"
  | .expectedListEnd => "expected \x60,\x60 or \x60]\x60"
  | .expectedObjectEnd => "expected \x60,\x60 or \x60\x7d\x60"
  | .expectedKey => "key must be a string"
  | .trailingComma => "trailing comma"
  | .trailingCharacters => "trailing characters"
  | .invalidNumber => "invalid number"
  | .numberOutOfRange => "number out of range"
  | .invalidEscape => "invalid escape"
  | .controlCharacter => "control character (\\u0000-\\u001F) found while parsing a string"
  | .loneSurrogate => "lone leading surrogate in hex escape"
  | .unfinishedPair => "unexpected end of hex escape"
  | .tooDeep => "recursion limit exceeded"

/-- A place in a text: the line, counted from one, and the bytes of that line in front of it. -/
structure Position where
  line : Nat := 1
  column : Nat := 0
  deriving DecidableEq, Repr

/-- The place behind a character. -/
def Position.past (position : Position) (c : Char) : Position :=
  -- Columns count bytes, so a character beyond ASCII counts more than once.
  if c == '\n' then ⟨position.line + 1, 0⟩ else { position with column := position.column + c.utf8Size }

/-- The place behind the given number of bytes of a character. -/
def Position.within (position : Position) (c : Char) (bytes : Nat) : Position :=
  if bytes == 0 then position
  -- A line feed ends its line even if it is itself at fault.
  else if c == '\n' then position.past c
  else { position with column := position.column + bytes }

/-- A complaint and its place. -/
structure Fault where
  complaint : Complaint
  position : Position
  deriving DecidableEq, Repr

/-- The text of a fault. -/
def Fault.message (fault : Fault) : String :=
  fault.complaint.message ++ " at line " ++ toString fault.position.line ++
    " column " ++ toString fault.position.column

end UdsCatalog.Json
