/-! Blanks: the characters that separate words, how they are removed and how texts are trimmed. -/

namespace UdsCatalog.Text

/-- The 25 characters with the Unicode property White_Space. -/
def isBlank (c : Char) : Bool :=
  let code := c.toNat
  (0x9 ≤ code && code ≤ 0xD) || code == 0x20 || code == 0x85 || code == 0xA0 || code == 0x1680 ||
    (0x2000 ≤ code && code ≤ 0x200A) || code == 0x2028 || code == 0x2029 || code == 0x202F ||
    code == 0x205F || code == 0x3000

/-- A text without its blanks, wherever they stand. -/
def stripBlanks (text : String) : String :=
  String.ofList (text.toList.filter fun c => !isBlank c)

/-- Characters without the blanks in front. -/
def trimLeft (chars : List Char) : List Char := chars.dropWhile isBlank

/-- Characters without the blanks at the end. -/
def trimRight (chars : List Char) : List Char := (chars.reverse.dropWhile isBlank).reverse

/-- Characters without the blanks around them. -/
def trim (chars : List Char) : List Char := trimRight (trimLeft chars)

end UdsCatalog.Text
