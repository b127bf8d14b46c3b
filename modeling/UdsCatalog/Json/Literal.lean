import UdsCatalog.Json.Fault

/-! Texts between double quotes in a document, read one character at a time. -/

namespace UdsCatalog.Json

/-- Where in a text between quotes the reader stands. -/
inductive LiteralPhase where
  | plain
  /-- Behind a backslash. -/
  | escape
  /-- Behind `\u`: the four bytes that follow, their value so far, the bytes taken, and the first half
  of a surrogate pair if one came before. -/
  | unit (value : Option Nat) (bytes : Nat) (lead : Option Nat)
  /-- Behind the first half of a surrogate pair. -/
  | pairSlash (lead : Nat)
  | pairMark (lead : Nat)
  deriving DecidableEq, Repr

/-- A text in the course of reading, its characters in reverse order. -/
structure Literal where
  phase : LiteralPhase
  done : List Char
  deriving DecidableEq, Repr

/-- What a character does to a text between quotes. -/
inductive LiteralStep where
  | goOn (literal : Literal)
  /-- The closing quote. -/
  | close (text : String)
  /-- A complaint, placed behind the given number of bytes of the character. -/
  | wrong (complaint : Complaint) (bytes : Nat)

namespace Literal

/-- A text of which only the opening quote has been read. -/
def start : Literal := ⟨.plain, []⟩

/-- The value of a digit of base sixteen. -/
def hexDigit? (c : Char) : Option Nat :=
  if '0' ≤ c ∧ c ≤ '9' then some (c.toNat - '0'.toNat)
  else if 'a' ≤ c ∧ c ≤ 'f' then some (c.toNat - 'a'.toNat + 10)
  else if 'A' ≤ c ∧ c ≤ 'F' then some (c.toNat - 'A'.toNat + 10)
  else none

/-- The character that an escape of one letter stands for. -/
def simpleEscape? (c : Char) : Option Char :=
  if c == '"' || c == '\\' || c == '/' then some c
  else if c == 'b' then some (Char.ofNat 8)
  else if c == 'f' then some (Char.ofNat 12)
  else if c == 'n' then some '\n'
  else if c == 'r' then some '\r'
  else if c == 't' then some '\t'
  else none

/-- Takes a character as it stands. -/
def push (literal : Literal) (c : Char) : LiteralStep := .goOn ⟨.plain, c :: literal.done⟩

/-- Takes a whole unit of sixteen bits. A first half waits for its second half. -/
def pushUnit (literal : Literal) (value : Nat) (lead : Option Nat) (bytes : Nat) : LiteralStep :=
  match lead with
  | none =>
    -- A second half that no first half precedes stands for no character.
    if 0xDC00 ≤ value && value ≤ 0xDFFF then .wrong .loneSurrogate bytes
    -- A first half is no character yet, so nothing is pushed before the other one is there.
    else if 0xD800 ≤ value && value ≤ 0xDBFF then .goOn { literal with phase := .pairSlash value }
    else literal.push (Char.ofNat value)
  | some first =>
    -- Each half holds ten bits of what lies beyond the first plane.
    if 0xDC00 ≤ value && value ≤ 0xDFFF then
      literal.push (Char.ofNat ((first - 0xD800) * 0x400 + (value - 0xDC00) + 0x10000))
    else .wrong .loneSurrogate bytes

/-- Takes a character as one or more of the four bytes behind `\u`. -/
def stepUnit (literal : Literal) (value : Option Nat) (bytes : Nat) (lead : Option Nat) (c : Char) :
    LiteralStep :=
  -- A wrong digit is remembered and reported only when all four bytes are there.
  let value := value.bind fun v => (hexDigit? c).map fun digit => v * 16 + digit
  -- A character of several bytes fills several of the four places, and may reach beyond the last one.
  let taken := bytes + c.utf8Size
  if taken < 4 then .goOn { literal with phase := .unit value taken lead }
  else
    match value with
    | some v => literal.pushUnit v lead (4 - bytes)
    -- The complaint stands behind the fourth byte, which may lie within the character.
    | none => .wrong .invalidEscape (4 - bytes)

/-- Reads one more character between the quotes. -/
def step (literal : Literal) (c : Char) : LiteralStep :=
  match literal.phase with
  | .plain =>
    if c == '"' then .close (String.ofList literal.done.reverse)
    else if c == '\\' then .goOn { literal with phase := .escape }
    -- Control characters must be escaped, line feeds included.
    else if c.toNat < 0x20 then .wrong .controlCharacter 1
    else literal.push c
  | .escape =>
    if c == 'u' then .goOn { literal with phase := .unit (some 0) 0 none }
    else
      match simpleEscape? c with
      | some meant => literal.push meant
      | none => .wrong .invalidEscape 1
  | .unit value bytes lead => literal.stepUnit value bytes lead c
  -- Only a second escape of this kind can complete the pair.
  | .pairSlash lead =>
    if c == '\\' then .goOn { literal with phase := .pairMark lead } else .wrong .unfinishedPair 1
  | .pairMark lead =>
    if c == 'u' then .goOn { literal with phase := .unit (some 0) 0 (some lead) }
    else .wrong .unfinishedPair 1

end Literal

end UdsCatalog.Json
