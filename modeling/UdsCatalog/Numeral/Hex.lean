import UdsCatalog.Numeral.Basic

/-! Numbers in base sixteen: read with or without a marker, written as literals of generated code. -/

namespace UdsCatalog.Numeral

/-- The text behind one marker `0x` or `0X`. -/
def afterHexMarker : List Char → List Char
  -- A second marker is not dropped, and is then no digit.
  | '0' :: 'x' :: rest => rest
  | '0' :: 'X' :: rest => rest
  | chars => chars

/-- Reads a number of the given width in bits from base sixteen. -/
def parseHex (bits : Nat) (text : String) : Except NumeralError Nat :=
  readUnsigned 16 (Nat.pow 2 bits) (afterHexMarker text.toList)

/-- A digit of base sixteen, in capitals. -/
def hexDigit (value : Nat) : Char :=
  if value < 10 then Char.ofNat ('0'.toNat + value) else Char.ofNat ('A'.toNat + (value - 10))

/-- The digits of a number in base sixteen, without leading zeros. -/
def hexDigits (value : Nat) : List Char :=
  if value < 16 then [hexDigit value] else hexDigits (value / 16) ++ [hexDigit (value % 16)]
termination_by value

/-- A literal of generated code: the marker and at least two digits. -/
def hexLiteral (value : Nat) : String :=
  -- A single digit gets a zero in front of it; longer numbers are written as they are.
  if value < 16 then String.ofList ['0', 'x', '0', hexDigit value]
  else String.ofList ('0' :: 'x' :: hexDigits value)

end UdsCatalog.Numeral
