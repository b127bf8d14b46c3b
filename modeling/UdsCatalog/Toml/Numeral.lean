import UdsCatalog.Numeral.FloatingPoint
import UdsCatalog.Numeral.Hex

/-! Numbers of TOML documents: integers of four bases, and floating-point numbers. -/

namespace UdsCatalog.Toml

open Text (Reads past?)
open FloatingPoint (splitSign digitsValue)

/-- Digits at the front of a text, and the rest. An underscore may stand before each of them. -/
def moreDigits (base : Nat) : List Char → List Char × List Char
  | '_' :: c :: rest =>
    if (Numeral.digit? base c).isSome then
      let (digits, behind) := moreDigits base rest
      (c :: digits, behind)
    -- An underscore that no digit follows is not taken, and the number ends in front of it.
    else ([], '_' :: c :: rest)
  | c :: rest =>
    if (Numeral.digit? base c).isSome then
      let (digits, behind) := moreDigits base rest
      (c :: digits, behind)
    else ([], c :: rest)
  | [] => ([], [])

/-- Reads digits; an underscore may stand between two of them. -/
def readDigits (base : Nat) : Reads (List Char)
  | [] => none
  | c :: rest =>
    if (Numeral.digit? base c).isSome then
      let (digits, behind) := moreDigits base rest
      some (c :: digits, behind)
    else none

/-- Reads a sign and digits without a leading zero. -/
def readWhole (chars : List Char) : Option ((Bool × List Char) × List Char) :=
  let (negative, rest) := splitSign chars
  match rest with
  -- Behind a leading zero no digit is read, so whatever follows must end the number.
  | '0' :: behind => some ((negative, ['0']), behind)
  | _ => (readDigits 10 rest).map fun (digits, behind) => ((negative, digits), behind)

/-- Reads the digits behind a point. -/
def readFraction : Reads (List Char)
  | '.' :: rest => readDigits 10 rest
  | _ => none

/-- Reads an exponent behind its letter. -/
def readExponent : Reads Int
  | [] => none
  | letter :: rest =>
    if letter == 'e' || letter == 'E' then
      let (negative, rest) := splitSign rest
      (readDigits 10 rest).map fun (digits, behind) =>
        let size : Int := digitsValue digits
        (if negative then -size else size, behind)
    else none

/-- Reads a number with a fraction, an exponent, or both. One above all finite numbers is wrong; one
below them is an infinity. -/
def readDecimal (chars : List Char) : Option (FloatingPoint × List Char) := do
  let ((negative, whole), rest) ← readWhole chars
  let fraction := readFraction rest
  let (places, rest) := fraction.getD ([], rest)
  let exponent := readExponent rest
  let (power, rest) := exponent.getD (0, rest)
  let value := FloatingPoint.ofDecimal negative (digitsValue (whole ++ places)) (power - places.length)
  -- Without point and exponent it is an integer, which is read elsewhere.
  if (fraction.isNone && exponent.isNone) || value == .infinite false then none
  else some (value, rest)

/-- Reads the name of a value that is not finite. -/
def readSpecial (chars : List Char) : Option (FloatingPoint × List Char) :=
  let (negative, rest) := splitSign chars
  match past? ['i', 'n', 'f'] rest with
  | some behind => some (.infinite negative, behind)
  | none => (past? ['n', 'a', 'n'] rest).map fun behind => (.notANumber, behind)

/-- Reads a floating-point number. -/
def readFloat : Reads FloatingPoint := Text.firstOf readDecimal readSpecial

/-- Integers fit 64 bits with a sign. -/
def checkedInt (value : Int) : Option Int :=
  if -0x8000_0000_0000_0000 ≤ value ∧ value < 0x8000_0000_0000_0000 then some value else none

/-- Reads the digits of a base behind its letter. -/
def readBased (base : Nat) (chars : List Char) : Option (Int × List Char) := do
  let (digits, rest) ← readDigits base chars
  -- The digits have been checked, so the default never counts.
  let value := digits.foldl (fun value c => value * base + (Numeral.digitValue? c).getD 0) 0
  return (← checkedInt value, rest)

/-- Reads an integer. -/
def readInt (chars : List Char) : Option (Int × List Char) :=
  match chars with
  -- No sign may stand in front of a marker.
  | '0' :: 'x' :: rest => readBased 16 rest
  | '0' :: 'o' :: rest => readBased 8 rest
  | '0' :: 'b' :: rest => readBased 2 rest
  | _ => do
    let ((negative, digits), rest) ← readWhole chars
    let size : Int := digitsValue digits
    return (← checkedInt (if negative then -size else size), rest)

end UdsCatalog.Toml
