import UdsCatalog.Json.Basic
import UdsCatalog.Json.Fault

/-! Numbers in the text of a document, read one character at a time. -/

namespace UdsCatalog.Json

/-- How far a number has been read. -/
inductive NumeralPhase where
  /-- Only a minus sign stands there. -/
  | sign
  /-- A zero, which no digit may follow. -/
  | zero
  | whole
  /-- Whole digits beyond the precision that is kept; each is a factor of ten. -/
  | excess
  | point
  | fraction
  /-- Digits behind the point beyond the precision that is kept. -/
  | fractionExcess
  | mark
  | markSign
  | power
  /-- An exponent so large that only the sign of the result is left. -/
  | vanished
  deriving DecidableEq, Repr

/-- A number in the course of reading: its digits as an integer of at most 64 bits, and the powers of
ten that belong to it. -/
structure Numeral where
  phase : NumeralPhase
  negative : Bool
  digits : Nat
  scale : Int
  exponentNegative : Bool
  exponent : Nat
  deriving DecidableEq, Repr

/-- What a character does to a number. -/
inductive NumeralStep where
  | goOn (numeral : Numeral)
  /-- The number ended before the character. -/
  | stop
  /-- The character is wrong here. -/
  | wrong (complaint : Complaint)

namespace Numeral

/-- A number that begins with a minus sign. -/
def negated : Numeral := ⟨.sign, true, 0, 0, false, 0⟩

/-- A number that begins with a digit. -/
def ofDigit (negative : Bool) (digit : Nat) : Numeral :=
  ⟨if digit == 0 then .zero else .whole, negative, digit, 0, false, 0⟩

/-- The digits kept of a number stay below this bound. -/
def digitBound : Nat := 0x1_0000_0000_0000_0000

/-- Exponents stay below this bound. -/
def exponentBound : Nat := 0x8000_0000

/-- The value of a decimal digit. -/
def decimalDigit? (c : Char) : Option Nat :=
  if c.isDigit then some (c.toNat - '0'.toNat) else none

/-- What may follow the whole digits. -/
def afterWhole (n : Numeral) (c : Char) : NumeralStep :=
  if c == '.' then .goOn { n with phase := .point }
  else if c == 'e' || c == 'E' then .goOn { n with phase := .mark }
  else .stop

/-- What may follow the digits behind the point. -/
def afterFraction (n : Numeral) (c : Char) : NumeralStep :=
  if c == 'e' || c == 'E' then .goOn { n with phase := .mark } else .stop

/-- Takes a digit behind the point, if there is room for it. -/
def pushFraction (n : Numeral) (digit : Nat) : Numeral :=
  if n.digits * 10 + digit < digitBound then
    { n with phase := .fraction, digits := n.digits * 10 + digit, scale := n.scale - 1 }
  -- Digits beyond the precision are dropped, which rounds the number down.
  else { n with phase := .fractionExcess }

/-- Takes a digit of the exponent. A number too large is wrong, one too small vanishes. -/
def pushExponent (n : Numeral) (digit : Nat) : NumeralStep :=
  if n.exponent * 10 + digit < exponentBound then
    .goOn { n with phase := .power, exponent := n.exponent * 10 + digit }
  -- A zero stays zero under any exponent, and a negative exponent only makes a number vanish.
  else if n.digits != 0 && !n.exponentNegative then .wrong .numberOutOfRange
  else .goOn { n with phase := .vanished }

/-- Reads one more character of a number. -/
def step (n : Numeral) (c : Char) : NumeralStep :=
  let digit := decimalDigit? c
  match n.phase, digit with
  | .sign, some d => .goOn (ofDigit true d)
  | .sign, none => .wrong .invalidNumber
  -- A number does not begin with a zero unless this is its only whole digit.
  | .zero, some _ => .wrong .invalidNumber
  | .zero, none => n.afterWhole c
  | .whole, some d =>
    if n.digits * 10 + d < digitBound then .goOn { n with digits := n.digits * 10 + d }
    -- From here on digits are no longer taken, but each of them still makes the number ten times
    -- greater.
    else .goOn { n with phase := .excess, scale := 1 }
  | .whole, none => n.afterWhole c
  | .excess, some _ => .goOn { n with scale := n.scale + 1 }
  | .excess, none => n.afterWhole c
  | .point, some d => .goOn (n.pushFraction d)
  -- At least one digit stands behind a point and behind a mark.
  | .point, none => .wrong .invalidNumber
  | .fraction, some d => .goOn (n.pushFraction d)
  | .fraction, none => n.afterFraction c
  | .fractionExcess, some _ => .goOn n
  | .fractionExcess, none => n.afterFraction c
  | .mark, some d => n.pushExponent d
  | .mark, none =>
    if c == '+' then .goOn { n with phase := .markSign }
    else if c == '-' then .goOn { n with phase := .markSign, exponentNegative := true }
    else .wrong .invalidNumber
  | .markSign, some d => n.pushExponent d
  | .markSign, none => .wrong .invalidNumber
  | .power, some d => n.pushExponent d
  | .power, none => .stop
  | .vanished, some _ => .goOn n
  | .vanished, none => .stop

/-- Multiplies by a power of ten in steps that the number range can hold; none when the result is
too large. The argument bounds the number of steps. -/
def scaleBy : Nat → Binary64 → Int → Option Binary64
  | 0, x, _ => some x
  | steps + 1, x, scale =>
    -- Powers up to this one are finite numbers, so a single step is enough.
    if scale.natAbs ≤ 308 then
      match Binary64.ofDecimal? false 1 scale.natAbs with
      | none => none
      | some power => if 0 ≤ scale then x.mul? power else x.div? power
    else if x.isZero then some x
    -- A greater positive power is too large for every number but zero.
    else if 0 ≤ scale then none
    else
      match Binary64.ofDecimal? false 1 308 with
      | none => none
      | some power => (x.div? power).bind fun y => scaleBy steps y (scale + 308)

/-- Digits times a power of ten as a binary number. The number becomes zero after three steps at most. -/
def toFloat (n : Numeral) (scale : Int) : Except Complaint Json :=
  -- The digits are rounded before they are multiplied, so the result need not be the nearest number.
  match scaleBy 8 (Binary64.ofInt n.digits) scale with
  | none => .error .numberOutOfRange
  | some x => .ok (.number (.float (if n.negative then x.neg else x)))

/-- The value of a number that has ended. An integer that fits 64 bits stays one, except a negative
zero. -/
def finish (n : Numeral) : Except Complaint Json :=
  match n.phase with
  -- A number that ends in one of these places lacks a digit.
  | .sign | .point | .mark | .markSign => .error .endInValue
  | .zero | .whole =>
    if !n.negative then .ok (Json.int n.digits)
    -- The negative zero is no integer, since integers have only one zero.
    else if n.digits == 0 || n.digits > 0x8000_0000_0000_0000 then n.toFloat 0
    else .ok (Json.int (-(n.digits : Int)))
  | .excess | .fraction | .fractionExcess => n.toFloat n.scale
  | .power =>
    n.toFloat (if n.exponentNegative then n.scale - n.exponent else n.scale + n.exponent)
  -- The sign is all that is left of it.
  | .vanished => .ok (.number (.float (.zero n.negative)))

end Numeral

end UdsCatalog.Json
