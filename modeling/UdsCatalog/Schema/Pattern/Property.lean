import UdsCatalog.Schema.CharSet
import UdsCatalog.Text.Blank
import UdsCatalog.Text.Category
import UdsCatalog.Text.Category.PropertyTable
import UdsCatalog.Text.Letter.Table
import UdsCatalog.Text.Script

/-! Sets of characters by the names of their properties. -/

namespace UdsCatalog.Schema

open Text (Category CodeRuns)

namespace CharSet

/-- The characters of some categories. -/
def ofCategories (categories : List Category) : CharSet :=
  union (categories.map fun category => .runs category.runs)

/-- Characters of any category. -/
def assigned : CharSet := ofCategories Category.all

/-- The names of categories and of groups of them, each with the short name first. -/
def categoryNames : List (List String × List Category) := [
  (["lu", "uppercaseletter"], [.capitalLetter]),
  (["ll", "lowercaseletter"], [.smallLetter]),
  (["lt", "titlecaseletter"], [.titleLetter]),
  (["lc", "casedletter"], [.capitalLetter, .smallLetter, .titleLetter]),
  (["lm", "modifierletter"], [.modifierLetter]),
  (["lo", "otherletter"], [.otherLetter]),
  (["l", "letter"], Category.letters),
  (["mn", "nonspacingmark"], [.nonspacingMark]),
  (["mc", "spacingmark"], [.spacingMark]),
  (["me", "enclosingmark"], [.enclosingMark]),
  (["m", "mark", "combiningmark"], Category.marks),
  (["nd", "decimalnumber", "digit"], [.decimalNumber]),
  (["nl", "letternumber"], [.letterNumber]),
  (["no", "othernumber"], [.otherNumber]),
  (["n", "number"], Category.numbers),
  (["pc", "connectorpunctuation"], [.connector]),
  (["pd", "dashpunctuation"], [.dash]),
  (["ps", "openpunctuation"], [.opening]),
  (["pe", "closepunctuation"], [.closing]),
  (["pi", "initialpunctuation"], [.initialQuote]),
  (["pf", "finalpunctuation"], [.finalQuote]),
  (["po", "otherpunctuation"], [.otherPunctuation]),
  (["p", "punctuation", "punct"], Category.punctuation),
  (["sm", "mathsymbol"], [.mathSymbol]),
  (["sc", "currencysymbol"], [.currencySymbol]),
  (["sk", "modifiersymbol"], [.modifierSymbol]),
  (["so", "othersymbol"], [.otherSymbol]),
  (["s", "symbol"], Category.symbols),
  (["zs", "spaceseparator"], [.spaceSeparator]),
  (["zl", "lineseparator"], [.lineSeparator]),
  (["zp", "paragraphseparator"], [.paragraphSeparator]),
  (["z", "separator"], Category.separators),
  (["cc", "control", "cntrl"], [.control]),
  (["cf", "format"], [.format]),
  (["co", "privateuse"], [.privateUse]),
  (["cs", "surrogate"], [])]

/-- The characters of a category, by a loose name of it. -/
def category? (name : String) : Option CharSet :=
  if name == "any" then some full
  else if name == "ascii" then some (.range 0 0x7F)
  else if name == "assigned" then some assigned
  -- No table lists the unassigned ones. They are what all categories leave.
  else if name == "cn" || name == "unassigned" then some (.other assigned)
  else if name == "c" || name == "other" then
    some (.either (.other assigned) (ofCategories Category.others))
  -- A group is a union of its categories, and a category is a group of one.
  else (categoryNames.find? fun (names, _) => names.contains name).map fun (_, found) => ofCategories found

/-- Letters in circles and the numbers that are letters of one case. -/
def letterLikeCapitals : CharSet :=
  .runs ([(0x2160, 0x216F, 1), (0x24B6, 0x24CF, 1)] ++ Text.framedLetters.drop 1)

/-- Letters, and signs that are used as letters. -/
def alphabetic : CharSet :=
  union [ofCategories (.letterNumber :: Category.letters), .runs Text.framedLetters,
    (ofCategories Category.marks).minus (.runs Text.foreignMarkRuns)]

/-- Characters that names may begin with. -/
def nameStarts : CharSet :=
  .either ((ofCategories (.letterNumber :: Category.letters)).minus (.single (Char.ofNat 0x2E2F)))
    (.runs [(0x1885, 0x1886, 1), (0x2118, 0x2118, 1), (0x212E, 0x212E, 1), (0x309B, 0x309C, 1)])

/-- Characters that names may go on with. -/
def nameChars : CharSet :=
  union [nameStarts, ofCategories [.nonspacingMark, .spacingMark, .decimalNumber, .connector],
    .runs [(0xB7, 0xB7, 1), (0x387, 0x387, 1), (0x1369, 0x1371, 1), (0x19DA, 0x19DA, 1),
      (0x200C, 0x200D, 1), (0x30FB, 0x30FB, 1), (0xFF65, 0xFF65, 1)]]

/-- Characters that stop being letters when their forms are brought together. -/
def unsteadyNameChars : CodeRuns :=
  [(0x37A, 0x37A, 1), (0x309B, 0x309C, 1), (0xFC5E, 0xFC63, 1), (0xFDFA, 0xFDFB, 1),
    (0xFE70, 0xFE7E, 2)]

/-- Characters that names may begin with, whatever form they are brought to. -/
def steadyNameStarts : CharSet :=
  nameStarts.minus
    (.runs (unsteadyNameChars ++ [(0xE33, 0xE33, 1), (0xEB3, 0xEB3, 1), (0xFF9E, 0xFF9F, 1)]))

/-- Letters of some case. -/
def cased : CharSet := .either asciiLetters (.runs Text.casedLetters)

/-- Signs that do not end a word when the letters around them are compared. -/
def caseIgnorable : CharSet :=
  .either (ofList ['\x27', '.', ':', '^', '\x60']) (.runs Text.caseIgnorable)

/-- Dashes, also those that are written high, low or as a sign of subtraction. -/
def dashes : CharSet :=
  .either (ofCategories [.dash]) (ofList (["\u2053", "\u207b", "\u208b", "\u2212"].flatMap String.toList))

/-- Quotation marks of all scripts. -/
def quotationMarks : CharSet :=
  .runs [(0x22, 0x27, 5), (0xAB, 0xBB, 16), (0x2018, 0x201F, 1), (0x2039, 0x203A, 1),
    (0x2E42, 0x2E42, 1), (0x300C, 0x300F, 1), (0x301D, 0x301F, 1), (0xFE41, 0xFE44, 1),
    (0xFF02, 0xFF07, 5), (0xFF62, 0xFF63, 1)]

/-- The code points that never stand for a character: the last two of each plane, and some others. -/
def noCharacters : CharSet :=
  .runs [(0xFDD0, 0xFDEF, 1), (0xFFFE, 0x10FFFE, 0x10000), (0xFFFF, 0x10FFFF, 0x10000)]

/-- The blanks of all scripts. -/
def whiteSpace : CharSet :=
  .runs [(0x9, 0xD, 1), (0x20, 0x20, 1), (0x85, 0x85, 1), (0xA0, 0xA0, 1), (0x1680, 0x1680, 1),
    (0x2000, 0x200A, 1), (0x2028, 0x2029, 1), (0x202F, 0x202F, 1), (0x205F, 0x205F, 1),
    (0x3000, 0x3000, 1)]

/-- The characters of a property that cuts across the categories, by a loose name of it. -/
def trait? (name : String) : Option CharSet :=
  match name with
  | "alpha" | "alphabetic" => some alphabetic
  -- The table begins beyond ASCII, whose letters are added here.
  | "lower" | "lowercase" => some (.either (between 'a' 'z') (.runs Text.smallLetters))
  | "upper" | "uppercase" =>
    some (.either (.runs Text.Category.capitalLetter.runs) letterLikeCapitals)
  | "whitespace" | "wspace" | "space" => some whiteSpace
  | "asciihexdigit" | "ahex" => some hexDigits
  | "hexdigit" | "hex" =>
    some (.either hexDigits (.runs [(0xFF10, 0xFF19, 1), (0xFF21, 0xFF26, 1), (0xFF41, 0xFF46, 1)]))
  | "ideographic" | "ideo" => some (.runs Text.ideographRuns)
  | "emoji" => some (.runs Text.emojiRuns)
  | "idstart" | "ids" => some nameStarts
  | "idcontinue" | "idc" => some nameChars
  | "xidstart" | "xids" => some steadyNameStarts
  | "xidcontinue" | "xidc" => some (nameChars.minus (.runs unsteadyNameChars))
  | "cased" => some cased
  | "caseignorable" | "ci" => some caseIgnorable
  | "dash" => some dashes
  | "quotationmark" | "qmark" => some quotationMarks
  | "noncharactercodepoint" | "nchar" => some noCharacters
  | "joincontrol" | "joinc" => some (.runs Text.joiners)
  | "regionalindicator" | "ri" => some (.range 0x1F1E6 0x1F1FF)
  | "variationselector" | "vs" =>
    some (.runs [(0x180B, 0x180D, 1), (0x180F, 0x180F, 1), (0xFE00, 0xFE0F, 1), (0xE0100, 0xE01EF, 1)])
  | "patternwhitespace" | "patws" =>
    some (.runs [(0x9, 0xD, 1), (0x20, 0x20, 1), (0x85, 0x85, 1), (0x200E, 0x200F, 1),
      (0x2028, 0x2029, 1)])
  | _ => none

/-- The characters of a property, by its name alone. -/
def named? (name : String) : Option CharSet :=
  let loose := Text.looseName name
  -- A property may share its name with a category. The property goes first.
  match trait? loose with
  | some set => some set
  | none =>
    match category? loose with
    | some set => some set
    | none => (Text.script? loose).map .runs

/-- The characters that have a value of a property. -/
def valued? (property value : String) : Option CharSet :=
  let value := Text.looseName value
  match Text.looseName property with
  | "gc" | "generalcategory" => category? value
  | "sc" | "script" | "scx" | "scriptextensions" => (Text.script? value).map .runs
  -- Properties that hold or do not hold have no values.
  | _ => none

/-- Cuts a text in front of the first place where a mark stands, and behind it. -/
def cutAt? (mark : List Char) : List Char → Option (List Char × List Char)
  | [] => none
  | c :: rest =>
    -- The mark itself belongs to neither side.
    if mark.isPrefixOf (c :: rest) then some ([], (c :: rest).drop mark.length)
    else (cutAt? mark rest).map fun (front, beyond) => (c :: front, beyond)

/-- What stands between braces: a name, or a property and its value. The characters, and whether all
others are meant. -/
def described? (text : List Char) : Option (CharSet × Bool) :=
  let pair (parts : List Char × List Char) := valued? (String.ofList parts.1) (String.ofList parts.2)
  -- The longer mark goes first, for it contains one of the others.
  match cutAt? ['!', '='] text with
  | some parts => (pair parts).map (·, true)
  | none =>
    match (cutAt? [':'] text).orElse fun _ => cutAt? ['='] text with
    | some parts => (pair parts).map (·, false)
    | none => (named? (String.ofList text)).map (·, false)

end CharSet

end UdsCatalog.Schema
