import UdsCatalog.Template.Expression
import UdsCatalog.Text.Reads

/-! The smallest parts of expressions: gaps, words, names, quoted texts, numbers and references. -/

namespace UdsCatalog.Template

open Text (Reads past? firstOf)

/-- The characters that may stand between the parts of a tag. -/
def isGap (c : Char) : Bool := c == ' ' || c == '\t' || c == '\r' || c == '\n'

/-- A text without the gap in front. -/
def pastGap (chars : List Char) : List Char := chars.dropWhile isGap

/-- The text behind a word and one character of gap. -/
def pastWord? (word chars : List Char) : Option (List Char) :=
  match past? word chars with
  -- One character is enough here. More of the gap may follow, and is left.
  | some (c :: rest) => if isGap c then some rest else none
  | _ => none

/-- The text behind some gap. -/
def pastSomeGap? : List Char → Option (List Char)
  | [] => none
  | c :: rest => if isGap c then some (pastGap rest) else none

/-- The text behind a word and the gap that must follow it. -/
def pastKeyword? (word : String) (chars : List Char) : Option (List Char) :=
  (past? word.toList chars).bind pastSomeGap?

/-- The characters of names. -/
def isNameChar (c : Char) : Bool := c.isAlphanum || c == '_'

/-- Reads a name, which does not start with a digit. -/
def readName : Reads String
  | [] => none
  | c :: rest =>
    if c.isAlpha || c == '_' then
      -- A name takes all it can, so what follows is no character of names.
      some (String.ofList (c :: rest.takeWhile isNameChar), rest.dropWhile isNameChar)
    else none

/-- Reads a text between two marks of the same kind; it holds no such mark. -/
def readQuoted : Reads (Char × String)
  | [] => none
  | mark :: rest =>
    if mark == '"' || mark == '\x27' || mark == '\x60' then
      -- There are no escapes: a text ends with the first mark of its kind.
      match rest.dropWhile (· != mark) with
      | [] => none
      | _ :: behind => some ((mark, String.ofList (rest.takeWhile (· != mark))), behind)
    else none

/-- Reads whole digits without a leading zero. -/
def readDigits : Reads (List Char)
  -- A zero stands alone. Digits behind it are left for whoever comes next.
  | '0' :: rest => some (['0'], rest)
  | c :: rest =>
    if c.isDigit then some (c :: rest.takeWhile Char.isDigit, rest.dropWhile Char.isDigit) else none
  | [] => none

/-- Reads whole digits behind an optional minus sign. -/
def readInteger : Reads (List Char)
  | '-' :: rest => (readDigits rest).map fun (digits, behind) => ('-' :: digits, behind)
  | chars => readDigits chars

/-- The value of decimal digits. -/
def digitsValue (digits : List Char) : Nat :=
  digits.foldl (fun value c => value * 10 + (c.toNat - '0'.toNat)) 0

/-- Integers of templates fit 64 bits with a sign. -/
def fitsInt64 (value : Int) : Bool := -0x8000_0000_0000_0000 ≤ value && value < 0x8000_0000_0000_0000

/-- Reads a number: with digits behind a point it is a fraction. -/
def readNumber (chars : List Char) : Option (Core × List Char) := do
  let (whole, rest) ← readInteger chars
  let negative := whole.head? == some '-'
  let digits := if negative then whole.drop 1 else whole
  -- An integer that does not fit is no number, and the text may be read as something else.
  let integer : Option (Core × List Char) :=
    let size : Int := digitsValue digits
    let value := if negative then -size else size
    if fitsInt64 value then some (.int value, rest) else none
  match rest with
  | '.' :: behind =>
    let fraction := behind.takeWhile Char.isDigit
    -- The point then belongs to what follows.
    if fraction.isEmpty then integer
    else
      let value ← Binary64.ofDecimal? negative (digitsValue (digits ++ fraction)) (-(fraction.length : Int))
      return (.float value, behind.dropWhile Char.isDigit)
  | _ => integer

/-- Reads the ways from a value to those inside, as they are written. The number bounds how many there
are. -/
def readWays : Nat → List Char → List Char × List Char
  | 0, chars => ([], chars)
  | room + 1, chars =>
    match chars with
    | '.' :: rest =>
      let key := rest.takeWhile isNameChar
      -- A way that does not fit is left unread, and so is all behind it.
      if key.isEmpty then ([], chars)
      else
        let (more, behind) := readWays room (rest.dropWhile isNameChar)
        ('.' :: key ++ more, behind)
    | '[' :: rest =>
      let index : Option (List Char × List Char) :=
        match readInteger rest with
        | some found => some found
        | none =>
          match readQuoted rest with
          | some ((mark, key), behind) => some (mark :: key.toList ++ [mark], behind)
          | none =>
            -- An index that is a reference has ways of its own.
            match readName rest with
            | some (root, behind) =>
              let (ways, behind) := readWays room behind
              some (root.toList ++ ways, behind)
            | none => none
      match index with
      | some (index, ']' :: behind) =>
        let (more, behind) := readWays room behind
        ('[' :: index ++ ']' :: more, behind)
      | _ => ([], chars)
    | _ => ([], chars)

/-- Reads a reference. -/
def readReference (chars : List Char) : Option (Reference × List Char) :=
  match readName chars with
  | some (root, rest) =>
    -- Each way takes a character at least, so there is room for all of them.
    let (ways, behind) := readWays rest.length rest
    some (⟨root ++ String.ofList ways⟩, behind)
  | none => none

end UdsCatalog.Template
