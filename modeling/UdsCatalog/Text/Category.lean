import UdsCatalog.Text.Category.LetterTable
import UdsCatalog.Text.Category.MarkTable
import UdsCatalog.Text.Category.SignTable

/-! The categories of characters: every code point belongs to one of them. -/

namespace UdsCatalog.Text

/-- What kind of sign a code point is. -/
inductive Category where
  | capitalLetter
  | smallLetter
  | titleLetter
  | modifierLetter
  | otherLetter
  | nonspacingMark
  | spacingMark
  | enclosingMark
  | decimalNumber
  | letterNumber
  | otherNumber
  | connector
  | dash
  | opening
  | closing
  | initialQuote
  | finalQuote
  | otherPunctuation
  | mathSymbol
  | currencySymbol
  | modifierSymbol
  | otherSymbol
  | spaceSeparator
  | lineSeparator
  | paragraphSeparator
  | control
  | format
  | privateUse
  deriving DecidableEq, Repr

namespace Category

/-- The categories of letters. -/
def letters : List Category :=
  [.capitalLetter, .smallLetter, .titleLetter, .modifierLetter, .otherLetter]

/-- The categories of marks. -/
def marks : List Category := [.nonspacingMark, .spacingMark, .enclosingMark]

/-- The categories of numbers. -/
def numbers : List Category := [.decimalNumber, .letterNumber, .otherNumber]

/-- The categories of punctuation. -/
def punctuation : List Category :=
  [.connector, .dash, .opening, .closing, .initialQuote, .finalQuote, .otherPunctuation]

/-- The categories of symbols. -/
def symbols : List Category := [.mathSymbol, .currencySymbol, .modifierSymbol, .otherSymbol]

/-- The categories of blanks. -/
def separators : List Category := [.spaceSeparator, .lineSeparator, .paragraphSeparator]

/-- The categories of code points that are no signs of their own. -/
def others : List Category := [.control, .format, .privateUse]

/-- All categories. A code point of none of them is not assigned. -/
def all : List Category := letters ++ marks ++ numbers ++ punctuation ++ symbols ++ separators ++ others

/-- The code points of a category. -/
def runs : Category → CodeRuns
  | .capitalLetter => capitalLetterRuns
  | .smallLetter => smallLetterRuns
  | .titleLetter => titleLetterRuns
  | .modifierLetter => modifierLetterRuns
  | .otherLetter => otherLetterRuns
  | .nonspacingMark => nonspacingMarkRuns
  | .spacingMark => spacingMarkRuns
  | .enclosingMark => enclosingMarkRuns
  | .decimalNumber => decimalNumberRuns
  | .letterNumber => letterNumberRuns
  | .otherNumber => otherNumberRuns
  | .connector => connectorRuns
  | .dash => dashRuns
  | .opening => openingRuns
  | .closing => closingRuns
  | .initialQuote => initialQuoteRuns
  | .finalQuote => finalQuoteRuns
  | .otherPunctuation => otherPunctuationRuns
  | .mathSymbol => mathSymbolRuns
  | .currencySymbol => currencySymbolRuns
  | .modifierSymbol => modifierSymbolRuns
  | .otherSymbol => otherSymbolRuns
  | .spaceSeparator => spaceSeparatorRuns
  | .lineSeparator => lineSeparatorRuns
  | .paragraphSeparator => paragraphSeparatorRuns
  | .control => controlRuns
  | .format => formatRuns
  | .privateUse => privateUseRuns

/-- A character belongs to one of the categories. -/
def anyHolds (categories : List Category) (c : Char) : Bool :=
  categories.any fun category => category.runs.holds c.toNat

end Category

/-- Letters in circles and squares, which count among the signs but also as letters. -/
def framedLetters : CodeRuns :=
  [(0x24B6, 0x24E9, 1), (0x1F130, 0x1F149, 1), (0x1F150, 0x1F169, 1), (0x1F170, 0x1F189, 1)]

/-- The signs that join letters or keep them apart without taking room. -/
def joiners : CodeRuns := [(0x200C, 0x200D, 1)]

/-- Characters that words are made of. -/
def isWordChar (c : Char) : Bool :=
  -- The tables of categories are long, so the common characters are decided without them.
  if c.toNat < 0x80 then c.isAlphanum || c == '_'
  else
    Category.anyHolds
        (Category.letters ++ [.letterNumber, .decimalNumber, .connector] ++ Category.marks) c ||
      framedLetters.holds c.toNat || joiners.holds c.toNat

end UdsCatalog.Text
