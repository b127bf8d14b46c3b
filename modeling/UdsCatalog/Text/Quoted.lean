import UdsCatalog.Text.Quoted.Table

/-! Texts between double quotes, as messages show them: whatever would not be seen is escaped. -/

namespace UdsCatalog.Text

/-- The digits of a number in base sixteen, small letters, without leading zeros. -/
def smallHex (n : Nat) : String := String.ofList (Nat.toDigits 16 n)

/-- A character that a line of text does not show by itself. -/
def isHidden (c : Char) : Bool :=
  let code := c.toNat
  -- The table begins behind ASCII, where only control characters are hidden.
  if code < 0x80 then code < 0x20 || code == 0x7F
  else hiddenRanges.any fun (first, last) => first ≤ code && code ≤ last

/-- One character between the quotes. -/
def quotedChar (c : Char) : String :=
  if c == '"' then "\\\""
  else if c == '\\' then "\\\\"
  else if c == '\n' then "\\n"
  else if c == '\r' then "\\r"
  else if c == '\t' then "\\t"
  else if c.toNat == 0 then "\\0"
  else if isHidden c then "\\u\x7b" ++ smallHex c.toNat ++ "\x7d"
  else c.toString

/-- A text between double quotes. -/
def quoted (text : String) : String :=
  "\"" ++ String.join (text.toList.map quotedChar) ++ "\""

/-- A path between double quotes. Unlike in other texts the single quotes in it are escaped too. -/
def quotedPath (path : String) : String :=
  let escaped (c : Char) := if c == '\x27' then "\\'" else quotedChar c
  "\"" ++ String.join (path.toList.map escaped) ++ "\""

end UdsCatalog.Text
