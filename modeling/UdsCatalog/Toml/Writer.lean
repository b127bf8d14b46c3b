import UdsCatalog.Toml.Quotes

/-!
Writing TOML documents: a text is put between the plainest quotes that can hold it. What is written
is read back as the same text.
-/

namespace UdsCatalog.Toml

/-- A text has so many of a character in a row. -/
def hasRun (count : Nat) (c : Char) (chars : List Char) : Bool :=
  match chars with
  -- Every text ends with a run of none.
  | [] => count == 0
  | _ :: rest => (List.replicate count c).isPrefixOf chars || hasRun count c rest

namespace Quotes

/-- The quotes can hold a text without an escape, as plainly as is wanted of them. -/
def suits (quotes : Quotes) (chars : List Char) : Bool :=
  let shows := !chars.any isControl
  match quotes with
  | .basic => shows && !chars.any fun c => c == '\\' || c == '"' || c == '\n'
  | .literal => shows && !chars.any fun c => c == '\x27' || c == '\n'
  -- Ends of lines may stand between long quotes, and single marks too.
  | .longBasic => shows && !chars.contains '\\' && !hasRun 3 '"' chars
  | .longLiteral => shows && !hasRun 3 '\x27' chars

/-- The quotes in which a text is written. -/
def choose (chars : List Char) : Quotes :=
  match [basic, literal, longBasic, longLiteral].find? (·.suits chars) with
  | some quotes => quotes
  -- Only basic quotes have escapes, and ends of lines make a text of several lines.
  | none => if chars.contains '\n' then .longBasic else .basic

/-- The digits of a character in base sixteen, at least four. -/
def fourDigits (c : Char) : List Char :=
  let digits := Numeral.hexDigits c.toNat
  List.replicate (4 - digits.length) '0' ++ digits

/-- One character as an escape, if it needs one whatever stands around it. -/
def escapeOf? (quotes : Quotes) (c : Char) : Option (List Char) :=
  -- Marks are left to the writer, which knows how many of them stand in a row.
  if c == '\\' then some ['\\', '\\']
  else if c == '\t' then some ['\\', 't']
  else if c == '\n' then if quotes.isLong then none else some ['\\', 'n']
  else if c == '\r' then some ['\\', 'r']
  else if c.toNat == 8 then some ['\\', 'b']
  else if c.toNat == 12 then some ['\\', 'f']
  else if isControl c then some ('\\' :: 'u' :: fourDigits c)
  else none

/-- The number of marks that may stand in a row without an escape. -/
def freeMarks (quotes : Quotes) : Nat := if quotes.isLong then 2 else 0

/-- Writes characters with escapes, behind so many marks in a row. -/
def writeEscaped (quotes : Quotes) : Nat → List Char → List Char
  | _, [] => []
  | run, c :: rest =>
    if c == '"' then
      -- Marks stay plain up to the third one in a row, which would begin to close the text.
      if run < quotes.freeMarks then c :: writeEscaped quotes (run + 1) rest
      else '\\' :: c :: writeEscaped quotes 0 rest
    else
      match quotes.escapeOf? c with
      | some escape => escape ++ writeEscaped quotes 0 rest
      | none => c :: writeEscaped quotes 0 rest

/-- The marks on either side. -/
def fence (quotes : Quotes) : List Char := List.replicate (if quotes.isLong then 3 else 1) quotes.mark

/-- Writes a text between quotes. A text of several lines starts on a line of its own. -/
def write (quotes : Quotes) (chars : List Char) : List Char :=
  quotes.fence ++
    -- This end of line does not count when the text is read.
    (if quotes.isLong && chars.contains '\n' then ['\n'] else []) ++
    (if quotes.hasEscapes then quotes.writeEscaped 0 chars else chars) ++
    quotes.fence

end Quotes

/-- A text as a value. -/
def textValue (text : String) : String :=
  let chars := text.toList
  String.ofList ((Quotes.choose chars).write chars)

/-- The line that sets a name to a text. -/
def textLine (key text : String) : String := key ++ " = " ++ textValue text ++ "\n"

/-- A table on lines of its own. -/
def tableLines (name : String) (lines : List (String × String)) : String :=
  "[" ++ name ++ "]\n" ++ String.join (lines.map fun (key, value) => textLine key value)

end UdsCatalog.Toml
