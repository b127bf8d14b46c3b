import UdsCatalog.Json.Basic
import UdsCatalog.Text.Quoted

/-! Documents as text: one line without blanks, the fields of objects in order. -/

namespace UdsCatalog.Json

/-- A control character as four digits of base sixteen. -/
def controlEscape (c : Char) : String :=
  -- Two digits are enough for a control character, and the zeros fill up to four.
  (if c.toNat < 16 then "\\u000" else "\\u00") ++ Text.smallHex c.toNat

/-- One character of a text in a document. Only what must be escaped is. -/
def escapedChar (c : Char) : String :=
  if c == '"' then "\\\""
  else if c == '\\' then "\\\\"
  else if c == '\n' then "\\n"
  else if c == '\r' then "\\r"
  else if c == '\t' then "\\t"
  -- Backspace and form feed have escapes of their own, unlike the other control characters.
  else if c.toNat == 8 then "\\b"
  else if c.toNat == 12 then "\\f"
  else if c.toNat < 0x20 then controlEscape c
  else c.toString

/-- A text as a document writes it. -/
def textLiteral (text : String) : String :=
  "\"" ++ String.join (text.toList.map escapedChar) ++ "\""

/-- A value on one line, without blanks. -/
def compact : Json → String
  | .null => "null"
  | .bool value => if value then "true" else "false"
  | .number value => value.toText
  | .text value => textLiteral value
  | .array items => "[" ++ ",".intercalate (compactItems items) ++ "]"
  | .object fields => "\x7b" ++ ",".intercalate (compactFields fields) ++ "\x7d"
where
  compactItems : List Json → List String
    | [] => []
    | item :: rest => item.compact :: compactItems rest
  compactFields : List (String × Json) → List String
    | [] => []
    | (name, value) :: rest => (textLiteral name ++ ":" ++ value.compact) :: compactFields rest

end UdsCatalog.Json
