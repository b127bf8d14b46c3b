/-!
Escapes that are written out before a pattern is read: the control characters, and the sets of digits,
word characters and blanks, which are those of ASCII but for some blanks.
-/

namespace UdsCatalog.Schema.Shorthand

/-- Control characters by their letters. A backslash counts even behind another one. -/
def withControls : List Char → List Char
  | '\\' :: 'c' :: letter :: rest =>
    if letter.isAlpha then Char.ofNat (letter.toNat % 32) :: withControls rest
    -- The letter is looked at again, as it may begin nothing but could follow a backslash.
    else '\\' :: withControls ('c' :: letter :: rest)
  | c :: rest => c :: withControls rest
  | [] => []

/-- The characters between brackets. -/
def bracketed (inverted : Bool) (content : String) : List Char :=
  (if inverted then ['[', '^'] else ['[']) ++ content.toList ++ [']']

/-- The blanks of patterns. -/
def blanks : String := " \t\n\r\u000b\u000c\u2003\ufeff\u2029\u00a0"

/-- The characters of words in patterns. -/
def wordChars : String := "A-Za-z0-9_"

/-- The decimal digits. -/
def digits : String := "0-9"

/-- What the escape of a letter is short for. -/
def written? : Char → Option (List Char)
  | 'd' => some (bracketed false digits)
  | 'D' => some (bracketed true digits)
  | 'w' => some (bracketed false wordChars)
  | 'W' => some (bracketed true wordChars)
  | 's' => some (bracketed false blanks)
  | 'S' => some (bracketed true blanks)
  | _ => none

/-- The text with the escapes for sets written out. -/
def withSets : List Char → List Char
  -- The escaped character goes along, so that a backslash behind a backslash starts nothing.
  | '\\' :: c :: rest => (written? c).getD ['\\', c] ++ withSets rest
  | c :: rest => c :: withSets rest
  | [] => []

/-- The text with all shorthand written out. -/
def expand (chars : List Char) : List Char := withSets (withControls chars)

end UdsCatalog.Schema.Shorthand
