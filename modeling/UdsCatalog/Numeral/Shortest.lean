import UdsCatalog.Numeral.Binary64

/-! The shortest decimal that reads back as a number, and the two ways it is laid out. -/

namespace UdsCatalog.Binary64

/-- The integers whose quotients by a common denominator bound a positive number: the lower end, the
number itself and the upper end of the decimals that round to it. -/
structure RoundingRange where
  low : Nat
  value : Nat
  high : Nat
  den : Nat
  /-- The ends themselves round to the number. -/
  closed : Bool

/-- The range of decimals that round to a positive number. Just above a power of two the gap below
is half as wide. -/
def roundingRange (x : Binary64) : RoundingRange :=
  -- The bounds lie halfway to the neighbours. Quarters make them, and the nearer one below a power of
  -- two, integers.
  let below := if x.mantissa == 0x10_0000_0000_0000 && x.exponent > leastExponent then 1 else 2
  -- Only one of unit and denominator is more than a small constant, depending on the sign of the
  -- exponent.
  let unit := if 0 ≤ x.exponent then Nat.pow 2 x.exponent.toNat else 1
  let den := if 0 ≤ x.exponent then 4 else 4 * Nat.pow 2 (-x.exponent).toNat
  { low := (4 * x.mantissa - below) * unit
    value := 4 * x.mantissa * unit
    high := (4 * x.mantissa + 2) * unit
    den
    closed := x.mantissa % 2 == 0 }

/-- Compares an integer times a power of ten with a fraction. -/
def compareScaled (digits : Nat) (scale : Int) (num den : Nat) : Ordering :=
  -- Both sides are brought to integers, so nothing is rounded in a comparison.
  if 0 ≤ scale then compare (digits * Nat.pow 10 scale.toNat * den) num
  else compare (digits * den) (num * Nat.pow 10 (-scale).toNat)

/-- A decimal rounds to the number. -/
def RoundingRange.holds (range : RoundingRange) (digits : Nat) (scale : Int) : Bool :=
  let above := compareScaled digits scale range.low range.den
  let under := compareScaled digits scale range.high range.den
  -- An end counts when a tie would be rounded to this number.
  (above == .gt || (range.closed && above == .eq)) && (under == .lt || (range.closed && under == .eq))

/-- The number divided by a power of ten, rounded down. -/
def RoundingRange.floorAt (range : RoundingRange) (scale : Int) : Nat :=
  if 0 ≤ scale then range.value / (range.den * Nat.pow 10 scale.toNat)
  else range.value * Nat.pow 10 (-scale).toNat / range.den

/-- Moves a power of ten up while the next one does not exceed the number. -/
def RoundingRange.climb (range : RoundingRange) : Nat → Int → Int
  | 0, power => power
  | steps + 1, power =>
    -- The power is moved one step at a time, since the estimate is too small by a few at most.
    if compareScaled 1 (power + 1) range.value range.den == .gt then power
    else range.climb steps (power + 1)

/-- The greatest power of ten that does not exceed the number. -/
def RoundingRange.leadingPower (range : RoundingRange) : Int :=
  -- The number of bits estimates the power from below, through the logarithm of two.
  let bits : Int := (Nat.log2 range.value : Int) - (Nat.log2 range.den : Int) - 1
  range.climb 4 (bits * 30103 / 100000 - 1)

/-- Of the two neighbours of the number on a decimal grid, the one that reads back, the nearer if
both do. -/
def RoundingRange.hit? (range : RoundingRange) (scale : Int) : Option (Nat × Int) :=
  let floor := range.floorAt scale
  -- A grid point reads back only if one of the two points next to the number does.
  match range.holds floor scale, range.holds (floor + 1) scale with
  | true, false => some (floor, scale)
  | false, true => some (floor + 1, scale)
  | true, true =>
    -- The middle of the two neighbours decides, and from the middle itself the even one is taken.
    match compareScaled (2 * floor + 1) scale (2 * range.value) range.den with
    | .lt => some (floor + 1, scale)
    | .gt => some (floor, scale)
    | .eq => some (if floor % 2 == 0 then floor else floor + 1, scale)
  | false, false => none

/-- Tries grids of one, two and more digits. -/
def RoundingRange.search (range : RoundingRange) : Nat → Int → Nat × Int
  -- Seventeen digits always read back, so the tries do not run out.
  | 0, scale => (range.floorAt scale, scale)
  | tries + 1, scale =>
    match range.hit? scale with
    | some hit => hit
    | none => range.search tries (scale - 1)

/-- The fewest digits, with their power of ten, that read back as a positive number. -/
def shortest (x : Binary64) : Nat × Int :=
  let range := x.roundingRange
  range.search 17 range.leadingPower

/-- Digits without the zeros at their end, each of which counts in the power of ten. -/
def dropZeros (digits : List Char) (scale : Int) : List Char × Int :=
  -- Zeros at the end do not change the number, once they count in the power.
  let zeros := (digits.reverse.takeWhile (· == '0')).length
  (digits.take (digits.length - zeros), scale + zeros)

/-- The digits of a positive number and the place of the point in front of or behind them. -/
def digitsAndPoint (x : Binary64) : List Char × Int :=
  let (value, scale) := x.shortest
  let (digits, scale) := dropZeros (Nat.toDigits 10 value) scale
  (digits, digits.length + scale)

/-- Digits with a point in place, and zeros where the point lies outside them. The flag keeps a
zero after the point of an integer. -/
def positional (digits : List Char) (point : Int) (keepFraction : Bool) : List Char :=
  -- In front of the first digit the point needs a zero of its own.
  if point ≤ 0 then '0' :: '.' :: (List.replicate (-point).toNat '0' ++ digits)
  -- Behind the last digit the gap up to the point is filled with zeros.
  else if digits.length ≤ point then
    digits ++ List.replicate (point.toNat - digits.length) '0' ++ (if keepFraction then ['.', '0'] else [])
  else digits.take point.toNat ++ '.' :: digits.drop point.toNat

/-- Digits with a point after the first one and an exponent. The flag shows the sign of an exponent that
is not negative. -/
def scientific (digits : List Char) (point : Int) (showsPlus : Bool) : List Char :=
  let exponent := point - 1
  -- A single digit takes no point.
  let fraction := if digits.length ≤ 1 then [] else '.' :: digits.drop 1
  let sign := if exponent < 0 then ['-'] else if showsPlus then ['+'] else []
  digits.take 1 ++ fraction ++ 'e' :: sign ++ Nat.toDigits 10 exponent.natAbs

/-- A sign in front of the text of a number. -/
def signed (x : Binary64) (chars : List Char) : String :=
  String.ofList (if x.negative then '-' :: chars else chars)

/-- The text of a number in a document: a point or an exponent always shows that it is no integer,
and the point is used from `0.00001` to below `10 ^ 16`. -/
def documentText (x : Binary64) : String :=
  if x.isZero then x.signed ['0', '.', '0']
  else
    let (digits, point) := x.digitsAndPoint
    x.signed
      (if -5 < point && point ≤ 16 then positional digits point true else scientific digits point true)

/-- The text of a number in the description of a value: a point or an exponent always shows that it is no
integer, and the point is used from `0.0001` to below `10 ^ 16`. -/
def describedText (x : Binary64) : String :=
  if x.isZero then x.signed ['0', '.', '0']
  else
    let (digits, point) := x.digitsAndPoint
    x.signed
      (if -4 < point && point ≤ 16 then positional digits point true else scientific digits point false)

/-- The text of a number in running text: never an exponent, and no point after an integer. -/
def plainText (x : Binary64) : String :=
  if x.isZero then x.signed ['0']
  else
    let (digits, point) := x.digitsAndPoint
    x.signed (positional digits point false)

end UdsCatalog.Binary64
