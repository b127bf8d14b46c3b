/-! Reading digits: what can be wrong with a numeral, and the left-to-right reader. -/

namespace UdsCatalog

/-- Why a text is not a numeral of the wanted width. -/
inductive NumeralError where
  | empty
  | invalidDigit
  | overflow
  deriving DecidableEq, Repr

/-- The wording of a numeral error. -/
def NumeralError.message : NumeralError → String
  | .empty => "cannot parse integer from empty string"
  | .invalidDigit => "invalid digit found in string"
  | .overflow => "number too large to fit in target type"

namespace Numeral

/-- The value of a digit in any base up to sixteen. -/
def digitValue? (c : Char) : Option Nat :=
  if '0' ≤ c ∧ c ≤ '9' then some (c.toNat - '0'.toNat)
  else if 'a' ≤ c ∧ c ≤ 'f' then some (c.toNat - 'a'.toNat + 10)
  else if 'A' ≤ c ∧ c ≤ 'F' then some (c.toNat - 'A'.toNat + 10)
  else none

/-- The value of a digit below the base. -/
def digit? (base : Nat) (c : Char) : Option Nat :=
  -- A letter that is a digit in base sixteen is none in base ten.
  match digitValue? c with
  | some value => if value < base then some value else none
  | none => none

/-- Reads digits after a number already read. The first character that is no digit, or the first
digit that carries the value to the bound, decides the error. -/
def readDigits (base bound : Nat) : Nat → List Char → Except NumeralError Nat
  | value, [] => .ok value
  | value, c :: rest =>
    -- The character is looked at before the value, so a foreign one is reported even where the value
    -- would not fit.
    match digit? base c with
    | none => .error .invalidDigit
    | some digit =>
      if value * base + digit < bound then readDigits base bound (value * base + digit) rest
      else .error .overflow

/-- Reads a number without a minus sign: one plus sign may stand in front of the digits. -/
def readUnsigned (base bound : Nat) : List Char → Except NumeralError Nat
  | [] => .error .empty
  -- A sign alone is not empty, but it has no digits.
  | ['+'] => .error .invalidDigit
  | '+' :: digits => readDigits base bound 0 digits
  | digits => readDigits base bound 0 digits

/-- Reads decimal digits that fit a signed number of 64 bits, with an optional sign. -/
def readInt64? : List Char → Option Int
  | '-' :: digits =>
    if digits.isEmpty then none
    -- There is one negative number more than there are positive ones.
    else match readDigits 10 0x8000_0000_0000_0001 0 digits with
      | .ok value => some (-(value : Int))
      | .error _ => none
  -- A plus sign is left to the reader of unsigned numbers, which takes at most one.
  | digits =>
    match readUnsigned 10 0x8000_0000_0000_0000 digits with
    | .ok value => some (value : Int)
    | .error _ => none

end Numeral

end UdsCatalog
