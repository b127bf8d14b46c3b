import UdsCatalog.Schema.Pattern.Property
import UdsCatalog.Text.Reads

/-! What stands behind a backslash in a pattern, and fillers that stand for nothing. -/

namespace UdsCatalog.Schema.Pattern

open Text (Reads)

/-- The meaning of a backslash and what follows it. -/
inductive Escape where
  | char (c : Char)
  /-- Digits of base sixteen, or all other characters. -/
  | hexDigits (inverted : Bool)
  | property (set : CharSet) (inverted : Bool)
  | edge (wanted : Bool)
  | start
  | stop
  /-- The start of the text, where the search began. -/
  | searchStart
  /-- A mark without effect on what matches. -/
  | keep
  | number (group : Nat)
  | name (group : String)
  deriving Repr

/-- The value of a digit of base sixteen. -/
def hexDigit? (c : Char) : Option Nat :=
  if '0' ≤ c ∧ c ≤ '9' then some (c.toNat - '0'.toNat)
  else if 'a' ≤ c ∧ c ≤ 'f' then some (c.toNat - 'a'.toNat + 10)
  else if 'A' ≤ c ∧ c ≤ 'F' then some (c.toNat - 'A'.toNat + 10)
  else none

/-- The character whose number digits of base sixteen give. -/
def charOf? (digits : List Char) : Option Char := do
  let values ← digits.mapM hexDigit?
  let code := values.foldl (fun value digit => value * 16 + digit) 0
  -- Surrogates and numbers beyond the last plane are no characters.
  if code.isValidChar then some (Char.ofNat code) else none

/-- Reads the number of a character: so many digits, or one to eight between braces. -/
def readCode (count : Nat) (chars : List Char) : Option (Char × List Char) :=
  let digits := chars.take count
  if digits.length == count && digits.all fun c => (hexDigit? c).isSome then
    (charOf? digits).map fun c => (c, chars.drop count)
  else
    match chars with
    | '\x7b' :: rest =>
      -- Braces are only looked for when there are not enough digits.
      let digits := rest.takeWhile fun c => (hexDigit? c).isSome
      match rest.drop digits.length with
      | '\x7d' :: beyond =>
        if digits.isEmpty || 8 < digits.length then none
        else (charOf? digits).map fun c => (c, beyond)
      | _ => none
    | _ => none

/-- Reads a decimal number below two to the power of 64. -/
def readCount (chars : List Char) : Option (Nat × List Char) :=
  let digits := chars.takeWhile Char.isDigit
  let value := digits.foldl (fun value c => value * 10 + (c.toNat - '0'.toNat)) 0
  -- A number that does not fit makes the whole pattern unreadable.
  if digits.isEmpty || 0x1_0000_0000_0000_0000 ≤ value then none else some (value, chars.drop digits.length)

/-- Characters of the names of groups. -/
def isNameChar (c : Char) : Bool :=
  c == '_' || CharSet.alphabetic.holds c || Text.Category.anyHolds Text.Category.numbers c

/-- Reads the name of a group and the mark behind it. -/
def readName (close : Char) (chars : List Char) : Option (String × List Char) :=
  let name := chars.takeWhile isNameChar
  match chars.drop name.length with
  -- An empty name is as wrong as one that is not closed.
  | c :: rest => if c == close && !name.isEmpty then some (String.ofList name, rest) else none
  | [] => none

/-- Reads the name of a group between marks. -/
def readQuotedName : List Char → Option (String × List Char)
  | '\x27' :: rest => readName '\x27' rest
  | '<' :: rest => readName '>' rest
  | _ => none

/-- Reads the name of a property, which is one letter or stands between braces. -/
def readProperty (inverted : Bool) : List Char → Option (Escape × List Char)
  | '\x7b' :: rest =>
    match rest.dropWhile (· != '\x7d') with
    | [] => none
    | _ :: beyond =>
      (CharSet.described? (rest.takeWhile (· != '\x7d'))).map fun (set, negative) =>
        -- Two negations cancel each other.
        (.property set (inverted != negative), beyond)
  -- Only groups of categories have names of one letter.
  | c :: rest => (CharSet.named? (String.ofList [c])).map fun set => (.property set inverted, rest)
  | [] => none

/-- Characters by the letters that stand for them. -/
def letterChar? : Char → Option Char
  | 'a' => some (Char.ofNat 7)
  | 'e' => some (Char.ofNat 0x1B)
  | 'f' => some (Char.ofNat 0xC)
  | 'n' => some '\n'
  | 'r' => some '\r'
  | 't' => some '\t'
  | 'v' => some (Char.ofNat 0xB)
  | _ => none

/-- Reads what stands behind a backslash. Characters beyond ASCII, and letters without a meaning, may
not stand there. -/
def readEscape : List Char → Option (Escape × List Char)
  | [] => none
  | c :: rest =>
    match c with
    | 'A' => some (.start, rest)
    | 'z' => some (.stop, rest)
    | 'b' => some (.edge true, rest)
    | 'B' => some (.edge false, rest)
    | 'G' => some (.searchStart, rest)
    | 'K' => some (.keep, rest)
    | 'h' => some (.hexDigits false, rest)
    | 'H' => some (.hexDigits true, rest)
    | 'x' => (readCode 2 rest).map fun (c, rest) => (.char c, rest)
    | 'u' => (readCode 4 rest).map fun (c, rest) => (.char c, rest)
    | 'U' => (readCode 8 rest).map fun (c, rest) => (.char c, rest)
    | 'p' => readProperty false rest
    | 'P' => readProperty true rest
    | 'k' => (readQuotedName rest).map fun (name, rest) => (.name name, rest)
    | c =>
      -- References have no upper bound here. Whether the group exists is asked later.
      if c.isDigit then (readCount (c :: rest)).map fun (number, rest) => (.number number, rest)
      else if c.isAlpha then (letterChar? c).map fun c => (.char c, rest)
      -- Signs stand for themselves.
      else if c.toNat < 0x80 then some (.char c, rest)
      else none

/-- The text behind a remark, up to its closing parenthesis. -/
def pastRemark? : List Char → Option (List Char)
  | ')' :: rest => some rest
  -- A parenthesis behind a backslash does not close the remark.
  | '\\' :: _ :: rest => pastRemark? rest
  | _ :: rest => pastRemark? rest
  | [] => none

/-- The text without the remarks in front and, if they stand for nothing, without blanks and comments.
The number bounds how many there are. -/
def pastFillers? (free : Bool) : Nat → List Char → Option (List Char)
  | 0, chars => some chars
  | room + 1, chars =>
    match chars with
    | '(' :: '?' :: '#' :: rest => (pastRemark? rest).bind (pastFillers? free room)
    | '#' :: rest =>
      -- A comment ends with its line, and with the text in the last one.
      if free then pastFillers? free room ((rest.dropWhile (· != '\n')).drop 1) else some chars
    | c :: rest =>
      if free && [' ', '\r', '\n', '\t'].contains c then pastFillers? free room rest else some chars
    | [] => some []

/-- The text without the fillers in front. -/
def pastFiller? (free : Bool) (chars : List Char) : Option (List Char) :=
  -- Every filler takes a character, so there is room for all of them.
  pastFillers? free chars.length chars

end UdsCatalog.Schema.Pattern
