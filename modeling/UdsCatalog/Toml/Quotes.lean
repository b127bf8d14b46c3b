import UdsCatalog.Numeral.Hex
import UdsCatalog.Text.Reads

/-!
Texts between quotes in TOML documents. There are four ways to quote a text; the long ones may have
several lines, and the basic ones have escapes.
-/

namespace UdsCatalog.Toml

open Text (Reads past?)

/-- The characters that may stand between the parts of a line. -/
def isGap (c : Char) : Bool := c == ' ' || c == '\t'

/-- A character that no line shows; tabs and ends of lines are not among them. -/
def isControl (c : Char) : Bool :=
  (c.toNat < 0x20 && c != '\t' && c != '\n') || c.toNat == 0x7F

/-- The first half of an end of line that is two characters long. -/
def isCarriage (c : Char) (rest : List Char) : Bool := c == '\r' && rest.head? == some '\n'

/-- The text behind an end of line, if it starts with one. -/
def pastNewline? : List Char → Option (List Char)
  | '\n' :: rest => some rest
  | '\r' :: '\n' :: rest => some rest
  | _ => none

/-- A way to put a text between quotes. -/
inductive Quotes where
  | basic
  | literal
  | longBasic
  | longLiteral
  deriving DecidableEq, Repr

namespace Quotes

/-- The character that the quotes are made of. -/
def mark : Quotes → Char
  | .basic | .longBasic => '"'
  | .literal | .longLiteral => '\x27'

/-- A text of several lines stands between three marks on either side. -/
def isLong : Quotes → Bool
  | .longBasic | .longLiteral => true
  | .basic | .literal => false

/-- Whether a backslash means something. -/
def hasEscapes : Quotes → Bool
  | .basic | .longBasic => true
  | .literal | .longLiteral => false

/-- Where in a quoted text the reader stands. -/
inductive Phase where
  | plain
  /-- Behind a backslash. -/
  | escape
  /-- In the digits of a character: how many are to come, and their value so far. -/
  | digits (left value : Nat)
  /-- Behind a backslash and a gap that must end the line. -/
  | lineEnd
  /-- Behind a line that ends in a backslash: gaps and further ends of lines do not count. -/
  | margin
  deriving DecidableEq, Repr

/-- What a character does to a quoted text. -/
inductive Step where
  /-- The text goes on with some characters. -/
  | goOn (phase : Phase) (taken : List Char)
  /-- The text is closed, behind its last characters. -/
  | close (taken rest : List Char)
  | wrong
  deriving DecidableEq, Repr

/-- The character that an escape of one letter stands for. -/
def simpleEscape? (c : Char) : Option Char :=
  if c == '"' || c == '\\' then some c
  else if c == 'b' then some (Char.ofNat 8)
  else if c == 't' then some '\t'
  else if c == 'n' then some '\n'
  else if c == 'f' then some (Char.ofNat 12)
  else if c == 'r' then some '\r'
  else none

/-- Behind the first mark of three that close a long text: the end of the text and what follows it. Up
to two marks before those three belong to the text. -/
def closing? (mark : Char) (chars : List Char) : Option (List Char × List Char) :=
  match past? [mark, mark] chars with
  | none => none
  | some rest =>
    -- As many marks as possible belong to the text, so that the last three are the closing ones.
    match past? [mark, mark] rest, past? [mark] rest with
    | some behind, _ => some ([mark, mark], behind)
    | none, some behind => some ([mark], behind)
    | none, none => some ([], rest)

/-- Takes a character that no backslash stands before. -/
def stepPlain (quotes : Quotes) (c : Char) (rest : List Char) : Step :=
  if c == quotes.mark then
    -- Inside of long quotes a mark or two are plain characters.
    if quotes.isLong then
      match closing? quotes.mark rest with
      | some (taken, behind) => .close taken behind
      | none => .goOn .plain [c]
    else .close [] rest
  else if c == '\\' && quotes.hasEscapes then .goOn .escape []
  -- An end of line counts as a line feed, in whichever way it is written.
  else if isCarriage c rest && quotes.isLong then .goOn .plain []
  -- A carriage return alone is a control character like any other.
  else if isControl c || (c == '\n' && !quotes.isLong) then .wrong
  else .goOn .plain [c]

/-- Takes a character between a backslash and the end of its line. -/
def stepLineEnd (c : Char) (rest : List Char) : Step :=
  if c == '\n' then .goOn .margin []
  else if isGap c || isCarriage c rest then .goOn .lineEnd []
  else .wrong

/-- Takes a digit of a character. -/
def stepDigit (left value : Nat) (c : Char) : Step :=
  match Numeral.digit? 16 c with
  | none => .wrong
  | some digit =>
    let value := value * 16 + digit
    -- The value may be no character before its last digit is there.
    if 1 < left then .goOn (.digits (left - 1) value) []
    else if value.isValidChar then .goOn .plain [Char.ofNat value]
    else .wrong

/-- Takes one more character. -/
def step (quotes : Quotes) (phase : Phase) (c : Char) (rest : List Char) : Step :=
  match phase with
  | .plain => stepPlain quotes c rest
  | .escape =>
    match simpleEscape? c with
    | some meant => .goOn .plain [meant]
    | none =>
      if c == 'u' then .goOn (.digits 4 0) []
      else if c == 'U' then .goOn (.digits 8 0) []
      -- Only a text of several lines can break its line here.
      else if quotes.isLong then stepLineEnd c rest
      else .wrong
  | .digits left value => stepDigit left value c
  | .lineEnd => stepLineEnd c rest
  | .margin =>
    -- The first character that is neither gap nor end of line stands in the text again.
    if isGap c || c == '\n' || isCarriage c rest then .goOn .margin [] else stepPlain quotes c rest

/-- Reads a text behind its opening quotes, up to and with the closing ones. -/
def readBody (quotes : Quotes) : Phase → Reads (List Char)
  | _, [] => none
  | phase, c :: rest =>
    match step quotes phase c rest with
    -- What a character contributes depends on the phase it meets, so the text is put together on the
    -- way back.
    | .goOn next taken =>
      (readBody quotes next rest).map fun (body, behind) => (taken ++ body, behind)
    | .close taken behind => some (taken, behind)
    | .wrong => none

/-- The quotes that a text on one line starts with. -/
def openingShort? : List Char → Option (Quotes × List Char)
  | '"' :: rest => some (.basic, rest)
  | '\x27' :: rest => some (.literal, rest)
  | _ => none

/-- The quotes that a text starts with. An end of line behind long ones does not count. -/
def opening? : List Char → Option (Quotes × List Char)
  -- Two marks are a short text that is empty, unless a third one follows.
  | '"' :: '"' :: '"' :: rest => some (.longBasic, (pastNewline? rest).getD rest)
  | '\x27' :: '\x27' :: '\x27' :: rest => some (.longLiteral, (pastNewline? rest).getD rest)
  | chars => openingShort? chars

end Quotes

/-- Reads a quoted text behind what tells its quotes. -/
def readQuotedBy (opening : List Char → Option (Quotes × List Char)) : Reads String := fun chars => do
  let (quotes, rest) ← opening chars
  let (body, behind) ← quotes.readBody .plain rest
  return (String.ofList body, behind)

/-- Reads a quoted text. -/
def readText : Reads String := readQuotedBy Quotes.opening?

/-- Reads a quoted text that must stay on its line. -/
def readShortText : Reads String := readQuotedBy Quotes.openingShort?

end UdsCatalog.Toml
