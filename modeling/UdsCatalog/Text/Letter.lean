import UdsCatalog.Text.Letter.Table
import UdsCatalog.Text.Letter.CaseTable

/-! Capital and small letters of Unicode: one letter at a time, and in a text. -/

namespace UdsCatalog.Text

/-- Small letters; of the ASCII characters these are `a` to `z`. -/
def isSmall (c : Char) : Bool :=
  if c.toNat < 0x80 then c.isLower else smallLetters.holds c.toNat

/-- Letters that have a case. -/
def isCased (c : Char) : Bool :=
  if c.toNat < 0x80 then c.isAlpha else casedLetters.holds c.toNat

/-- Signs that do not end a word when the letters around them are compared. -/
def isCaseIgnorable (c : Char) : Bool :=
  -- Among ASCII characters these are the signs that may stand within a word.
  if c.toNat < 0x80 then c == '\x27' || c == '.' || c == ':' || c == '^' || c == '\x60'
  else caseIgnorable.holds c.toNat

/-- The case form of a code point beyond ASCII: a long form, else a paired one, else itself. -/
def caseForm (long : List (Nat × List Nat)) (runs : CaseRuns) (c : Char) : List Char :=
  -- A long form wins over a paired one, because the tables of pairs know single characters only.
  match long.lookup c.toNat with
  | some codes => codes.map Char.ofNat
  | none =>
    match runs.partner? c.toNat with
    | some code => [Char.ofNat code]
    | none => [c]

/-- The capital form of a character, which may take several characters. -/
def capitalForm (c : Char) : List Char :=
  if c.toNat < 0x80 then [c.toUpper] else caseForm longCapitalForms capitalForms c

/-- The small form of a character that stands alone. -/
def smallForm (c : Char) : List Char :=
  if c.toNat < 0x80 then [c.toLower] else caseForm longSmallForms smallForms c

/-- The nearest character that is not passed over has a case. -/
def leansOnLetter (neighbours : List Char) : Bool :=
  -- An apostrophe or a mark between the letters does not separate them.
  match neighbours.dropWhile isCaseIgnorable with
  | [] => false
  | c :: _ => isCased c

/-- The capital letter whose small form differs at the end of a word. -/
def capitalSigma : Char := Char.ofNat 0x3A3

/-- Small forms in a word: a sigma after a letter and before none takes its final shape. -/
def smallFormsAfter (before : List Char) : List Char → List Char
  | [] => []
  | c :: rest =>
    -- Only this letter has a small form that depends on its neighbours.
    let form :=
      if c == capitalSigma then
        if leansOnLetter before && !leansOnLetter rest then [Char.ofNat 0x3C2] else [Char.ofNat 0x3C3]
      else smallForm c
    form ++ smallFormsAfter (c :: before) rest

/-- A text in capital letters. -/
def toCapitals (text : String) : String :=
  String.ofList (text.toList.flatMap capitalForm)

/-- A text in small letters. -/
def toSmall (text : String) : String :=
  String.ofList (smallFormsAfter [] text.toList)

/-- A text whose first character is a capital letter, the rest unchanged. -/
def capitalizeFirst (text : String) : String :=
  match text.toList with
  | [] => ""
  | first :: rest => String.ofList (capitalForm first ++ rest)

end UdsCatalog.Text
