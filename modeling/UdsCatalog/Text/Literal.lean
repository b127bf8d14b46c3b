/-! Texts inside the string literals of generated code. -/

namespace UdsCatalog.Text

/-- One character of a detail text: a line feed and a double quote are escaped, a backslash is not. -/
def escapeChar (c : Char) : List Char :=
  -- Backslashes are left as they are, so that escapes which the text already has keep their meaning.
  if c == '\n' then ['\\', 'n'] else if c == '"' then ['\\', '"'] else [c]

/-- A detail text, ready to stand between the quotes of a string literal. -/
def escapeDetail (text : String) : String :=
  String.ofList (text.toList.flatMap escapeChar)

end UdsCatalog.Text
