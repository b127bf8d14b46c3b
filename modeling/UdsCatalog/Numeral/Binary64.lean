/-! Binary floating-point numbers of 64 bits, held as exact dyadic fractions. -/

namespace UdsCatalog

/-- A finite number `± mantissa · 2 ^ exponent`. Numbers made here are canonical: a mantissa of 53
bits, or a smaller one at the least exponent. -/
structure Binary64 where
  negative : Bool
  mantissa : Nat
  exponent : Int
  deriving DecidableEq, Repr

namespace Binary64

/-- The exponent of the smallest numbers. -/
def leastExponent : Int := -1074

/-- The exponent of the largest numbers. -/
def greatestExponent : Int := 971

/-- Zero with a sign. -/
def zero (negative : Bool) : Binary64 := ⟨negative, 0, leastExponent⟩

/-- A number is zero whatever its sign. -/
def isZero (x : Binary64) : Bool := x.mantissa == 0

/-- The quotient of two numbers, rounded to the nearest integer; a tie goes to the even one. -/
def roundDiv (num den : Nat) : Nat :=
  let quotient := num / den
  -- Doubling the remainder compares it with half of the divisor without a fraction.
  let twice := 2 * (num % den)
  if twice > den || (twice == den && quotient % 2 == 1) then quotient + 1 else quotient

/-- The size of a number as a fraction. -/
def fraction (x : Binary64) : Nat × Nat :=
  if 0 ≤ x.exponent then (x.mantissa * Nat.pow 2 x.exponent.toNat, 1)
  else (x.mantissa, Nat.pow 2 (-x.exponent).toNat)

/-- A fraction divided by a power of two, rounded to an integer. -/
def roundAt (num den : Nat) (exponent : Int) : Nat :=
  -- The power goes to the side where it is an integer.
  if 0 ≤ exponent then roundDiv num (den * Nat.pow 2 exponent.toNat)
  else roundDiv (num * Nat.pow 2 (-exponent).toNat) den

/-- The exponent at which a positive fraction has a mantissa of 53 bits, before rounding. -/
def fittingExponent (num den : Nat) : Int :=
  -- The logarithms are off by less than one each, so the exponent is this one or the next.
  let low : Int := (Nat.log2 num : Int) - (Nat.log2 den : Int) - 53
  let reaches :=
    if 0 ≤ low then num / (den * Nat.pow 2 low.toNat) < 0x20_0000_0000_0000
    else num * Nat.pow 2 (-low).toNat / den < 0x20_0000_0000_0000
  -- Below the least exponent the mantissa gets shorter instead.
  max leastExponent (if reaches then low else low + 1)

/-- The nearest number to a fraction with a sign, ties to an even mantissa; none when it is too
large for a finite number. -/
def ofFraction? (negative : Bool) (num den : Nat) : Option Binary64 :=
  if num == 0 then some (zero negative)
  else
    let exponent := fittingExponent num den
    let mantissa := roundAt num den exponent
    -- Rounding up can carry the mantissa to 54 bits; the last of them is a zero then.
    let (mantissa, exponent) :=
      if mantissa == 0x20_0000_0000_0000 then (0x10_0000_0000_0000, exponent + 1) else (mantissa, exponent)
    if exponent > greatestExponent then none else some ⟨negative, mantissa, exponent⟩

/-- The nearest number to an integer of at most 64 bits. -/
def ofInt (value : Int) : Binary64 :=
  -- No integer of this size is too large, so the default is never taken.
  (ofFraction? (value < 0) value.natAbs 1).getD (zero false)

/-- The nearest number to `digits · 10 ^ scale`; none when it is too large. A value far below the
smallest number is zero. -/
def ofDecimal? (negative : Bool) (digits : Nat) (scale : Int) : Option Binary64 :=
  if digits == 0 then some (zero negative)
  else
    -- Powers of ten far outside of the range are never computed.
    let magnitude := (Nat.toDigits 10 digits).length + scale
    if magnitude > 400 then none
    else if magnitude < -400 then some (zero negative)
    else if 0 ≤ scale then ofFraction? negative (digits * Nat.pow 10 scale.toNat) 1
    else ofFraction? negative digits (Nat.pow 10 (-scale).toNat)

/-- A number over the denominator two to the power 1074, with its sign. -/
def scaled (x : Binary64) : Int :=
  -- Every number is an integer over this denominator, so sums and remainders are exact before they are
  -- rounded.
  let size : Int := Int.ofNat (x.mantissa * Nat.pow 2 (x.exponent - leastExponent).toNat)
  if x.negative then -size else size

/-- The denominator of `scaled`. -/
def scale : Nat := Nat.pow 2 1074

/-- The nearest number to an integer over a denominator. -/
def ofScaled? (num : Int) (den : Nat) (negativeZero : Bool) : Option Binary64 :=
  -- An exact zero has no sign of its own, so the operation says which one it gets.
  ofFraction? (if num == 0 then negativeZero else num < 0) num.natAbs den

/-- The rounded sum; none when it is too large. -/
def add? (x y : Binary64) : Option Binary64 :=
  -- A sum of zero is negative only if both numbers are.
  ofScaled? (x.scaled + y.scaled) scale (x.negative && y.negative)

/-- The number with the other sign. -/
def neg (x : Binary64) : Binary64 := { x with negative := !x.negative }

/-- The rounded difference; none when it is too large. -/
def sub? (x y : Binary64) : Option Binary64 := add? x y.neg

/-- The rounded product; none when it is too large. -/
def mul? (x y : Binary64) : Option Binary64 :=
  let (num, den) := x.fraction
  let (num', den') := y.fraction
  ofFraction? (x.negative != y.negative) (num * num') (den * den')

/-- The rounded quotient; none when the divisor is zero or the quotient is too large. -/
def div? (x y : Binary64) : Option Binary64 :=
  if y.isZero then none
  else
    let (num, den) := x.fraction
    let (num', den') := y.fraction
    ofFraction? (x.negative != y.negative) (num * den') (den * num')

/-- The remainder of a division toward zero, with the sign of the dividend; none for a zero divisor. -/
def rem? (x y : Binary64) : Option Binary64 :=
  if y.isZero then none
  else ofScaled? (Int.tmod x.scaled y.scaled) scale x.negative

/-- A number is an integer when nothing is left over after the point. -/
def isIntegral (x : Binary64) : Bool :=
  let (num, den) := x.fraction
  num % den == 0

end Binary64

end UdsCatalog
