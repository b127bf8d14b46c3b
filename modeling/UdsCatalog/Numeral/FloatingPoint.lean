import UdsCatalog.Numeral.Shortest
import UdsCatalog.Text.Reads

/-! Binary floating-point numbers with infinities and the value that is no number. -/

namespace UdsCatalog

/-- A binary number of 64 bits, an infinity, or no number. -/
inductive FloatingPoint where
  | finite (value : Binary64)
  | infinite (negative : Bool)
  | notANumber
  deriving DecidableEq, Repr

namespace FloatingPoint

/-- The text of a number in running text. -/
def plainText : FloatingPoint → String
  | .finite value => value.plainText
  | .infinite negative => if negative then "-inf" else "inf"
  | .notANumber => "NaN"

/-- The value of decimal digits. -/
def digitsValue (digits : List Char) : Nat :=
  -- The digits are checked by those who call this.
  digits.foldl (fun value c => value * 10 + (c.toNat - '0'.toNat)) 0

/-- The number nearest to digits times a power of ten, or an infinity. -/
def ofDecimal (negative : Bool) (digits : Nat) (scale : Int) : FloatingPoint :=
  match Binary64.ofDecimal? negative digits scale with
  | some value => .finite value
  -- What is too large for a finite number is rounded to an infinity, with its sign.
  | none => .infinite negative

/-- A sign in front, and the rest. -/
def splitSign : List Char → Bool × List Char
  | '-' :: rest => (true, rest)
  | '+' :: rest => (false, rest)
  | chars => (false, chars)

/-- The exponent that a text is, behind its mark. A text without mark is none. -/
def exponentOf? : List Char → Option Int
  | [] => some 0
  | mark :: rest =>
    if mark == 'e' || mark == 'E' then
      let (negative, digits) := splitSign rest
      if digits.isEmpty || !digits.all Char.isDigit then none
      else some (if negative then -(digitsValue digits : Int) else digitsValue digits)
    else none

/-- Reads the digits of a number: some in front of the point or behind it, and an exponent. -/
def readDecimal? (negative : Bool) (chars : List Char) : Option FloatingPoint :=
  let whole := chars.takeWhile Char.isDigit
  let rest := chars.dropWhile Char.isDigit
  -- The point may be missing, and so may the digits on one of its sides.
  let behind := (Text.past? ['.'] rest).getD []
  let fraction := behind.takeWhile Char.isDigit
  let rest := if rest.head? == some '.' then behind.dropWhile Char.isDigit else rest
  if whole.isEmpty && fraction.isEmpty then none
  else
    (exponentOf? rest).map fun exponent =>
      -- The digits behind the point are read with the others, and the exponent makes up for them.
      ofDecimal negative (digitsValue (whole ++ fraction)) (exponent - fraction.length)

/-- Reads a whole text as a number, or as a name of one that is not finite in letters of any size. -/
def ofText? (text : String) : Option FloatingPoint :=
  let (negative, chars) := splitSign text.toList
  -- The names are compared in small letters, which ASCII letters are enough for.
  let word := String.ofList (chars.map Char.toLower)
  if word == "inf" || word == "infinity" then some (.infinite negative)
  else if word == "nan" then some .notANumber
  else readDecimal? negative chars

end FloatingPoint

end UdsCatalog
