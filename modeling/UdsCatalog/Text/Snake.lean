import UdsCatalog.Text.Letter

/-! Snake case: the segments of an identifier joined by underscores. -/

namespace UdsCatalog.Text

/-- Puts an underscore before every character that is not a small letter. -/
def breakBefore : List Char → List Char
  | [] => []
  | c :: rest => if isSmall c then c :: breakBefore rest else '_' :: c :: breakBefore rest

/-- Splits an identifier into segments: each character after the first that is not a small letter
starts a new one, so digits and the letters of an acronym stand alone. -/
def segment : List Char → List Char
  | [] => []
  -- The first character begins a segment anyway, so nothing is put in front of it.
  | first :: rest => first :: breakBefore rest

/-- `reservedValue` becomes `RESERVED_VALUE`. -/
def upperSnake (text : String) : String :=
  toCapitals (String.ofList (segment text.toList))

/-- `ReservedValue` becomes `reserved_value`. -/
def lowerSnake (text : String) : String :=
  toSmall (String.ofList (segment text.toList))

end UdsCatalog.Text
