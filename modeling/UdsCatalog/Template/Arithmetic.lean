import UdsCatalog.Template.Trouble

/-! Numbers in templates: integers while they fit 64 bits, else binary fractions. -/

namespace UdsCatalog.Template

/-- The result of arithmetic. None is the result of what has no number. -/
abbrev Computed := Except Trouble (Option JsonNumber)

/-- An integer that fits 64 bits with a sign. -/
def inInt64 (value : Int) : Bool := -0x8000_0000_0000_0000 ≤ value && value < 0x8000_0000_0000_0000

/-- An integer that fits 64 bits without a sign. -/
def inWord64 (value : Int) : Bool := 0 ≤ value && value < 0x1_0000_0000_0000_0000

/-- Two integers that both fit 64 bits with a sign, or both without one; the type is named. -/
def commonType? : JsonNumber → JsonNumber → Option (Int × Int × String)
  | .int left, .int right =>
    -- Signed integers are preferred, so most differences may be negative.
    if inInt64 left && inInt64 right then some (left, right, "i64")
    else if inWord64 left && inWord64 right then some (left, right, "u64")
    else none
  | _, _ => none

/-- The integer stays in its type. -/
def staysIn (type : String) (value : Int) : Bool :=
  if type == "i64" then inInt64 value else inWord64 value

/-- An integer operation that must stay in the type of its operands, or else one on fractions. -/
def combine (sign : String) (whole : Int → Int → Int)
    (fractional : Binary64 → Binary64 → Option Binary64) (left right : JsonNumber) : Computed :=
  match commonType? left right with
  | some (l, r, type) =>
    -- The result is exact, and one that has left the type is refused instead of being cut.
    if staysIn type (whole l r) then .ok (some (.int (whole l r)))
    else .error (.outOfBounds l sign r type)
  -- A fraction on either side, or integers of no common type.
  | none => .ok ((fractional left.toBinary64 right.toBinary64).map .float)

/-- Computes with two numbers. The descriptions of the operands are told when the divisor of a
remainder is zero. -/
def MathOp.compute (op : MathOp) (left right : JsonNumber) (describeLeft describeRight : String) :
    Computed :=
  match op with
  | .plus => combine "+" (· + ·) Binary64.add? left right
  | .minus => combine "-" (· - ·) Binary64.sub? left right
  | .times => combine "x" (· * ·) Binary64.mul? left right
  -- Division is always one of fractions, so a zero divisor gives no number instead of a trouble.
  | .over => .ok ((left.toBinary64.div? right.toBinary64).map .float)
  | .modulo =>
    match commonType? left right with
    | some (l, r, _) =>
      if r == 0 then .error (.moduloZero describeLeft describeRight)
      -- The remainder has the sign of the dividend.
      else .ok (some (.int (Int.tmod l r)))
    | none => .ok ((left.toBinary64.rem? right.toBinary64).map .float)

/-- Compares two numbers as binary fractions. -/
def LogicOp.compareNumbers (op : LogicOp) (left right : JsonNumber) : Bool :=
  -- Large integers may meet in one fraction, and then neither is less.
  let l := left.toBinary64.scaled
  let r := right.toBinary64.scaled
  match op with
  | .less => l < r
  | .atMost => l ≤ r
  | .greater => r < l
  | .atLeast => r ≤ l
  -- The other operators compare no numbers.
  | _ => false

/-- Two values are equal. Numbers are compared as binary fractions, and a number never compares with
anything else; that case is none. -/
def comparedEqual? (left right : Json) : Option Bool :=
  match left, right with
  | .number l, .number r => some (Json.equalNumbers l r)
  -- No answer is not the same as no: a negation leaves it as it is.
  | .number _, _ | _, .number _ => none
  | l, r => some (l.same r)

/-- A value that counts as true in a condition. -/
def isTrue : Json → Bool
  | .null => false
  | .bool value => value
  | .number (.int value) => value != 0
  | .number (.float value) => !value.isZero
  -- Even a text of blanks counts.
  | .text value => value != ""
  | .array items => !items.isEmpty
  | .object fields => !fields.isEmpty

/-- A number that differs from zero. -/
def isNonzero : JsonNumber → Bool
  | .int value => value != 0
  | .float value => !value.isZero

mutual

/-- The text of a value in a template's output. -/
def shown : Json → String
  | .null => ""
  | .bool value => boolWord value
  | .number (.int value) => toString value
  | .number (.float value) => value.plainText
  | .text value => value
  | .array items => "[" ++ ", ".intercalate (shownItems items) ++ "]"
  -- What is inside of an object never reaches the output.
  | .object _ => "[object]"

/-- The texts of several values. -/
def shownItems : List Json → List String
  | [] => []
  | item :: rest => shown item :: shownItems rest

end

/-- A text occurs in another. -/
def occursIn (part : List Char) : List Char → Bool
  -- The empty text occurs everywhere.
  | [] => part.isEmpty
  | c :: rest => part.isPrefixOf (c :: rest) || occursIn part rest

/-- A value is among those of a container. -/
def isAmong (value : Json) : Json → Except Trouble Bool
  | .array items => .ok (items.any fun item => item.same value)
  | .text text =>
    match value with
    | .text part => .ok (occursIn part.toList text.toList)
    | other => .error (.notInText (describeValue other))
  -- An object contains its names, not its values.
  | .object fields =>
    match value with
    | .text name => .ok (fields.lookup name).isSome
    | other => .error (.notInObject (describeValue other))
  | _ => .error .noContainer

end UdsCatalog.Template
