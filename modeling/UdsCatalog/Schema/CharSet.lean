import UdsCatalog.Text.CodeRuns
import UdsCatalog.Text.Letter.Folding

/-! Sets of characters, built from ranges and tables. -/

namespace UdsCatalog.Schema

/-- A set of characters. -/
inductive CharSet where
  | range (first last : Nat)
  | runs (table : Text.CodeRuns)
  | either (a b : CharSet)
  | both (a b : CharSet)
  | other (a : CharSet)
  /-- Some case of the character is in the set. -/
  | anyCase (a : CharSet)
  deriving DecidableEq, Repr

namespace CharSet

/-- A code point is in a set. -/
def holdsCode : CharSet → Nat → Bool
  | .range first last, code => first ≤ code && code ≤ last
  | .runs table, code => table.holds code
  | .either a b, code => a.holdsCode code || b.holdsCode code
  | .both a b, code => a.holdsCode code && b.holdsCode code
  | .other a, code => !a.holdsCode code
  -- Cases are looked up on the side of the character, so that sets stay as they were written.
  | .anyCase a, code => a.holdsCode code || (Text.caseVariants code).any a.holdsCode

/-- A character is in a set. -/
def holds (set : CharSet) (c : Char) : Bool := set.holdsCode c.toNat

/-- The set without characters. -/
def empty : CharSet := .range 1 0

/-- The set of all characters. -/
def full : CharSet := .range 0 0x10FFFF

/-- The set of one character. -/
def single (c : Char) : CharSet := .range c.toNat c.toNat

/-- The characters from one to another. -/
def between (first last : Char) : CharSet := .range first.toNat last.toNat

/-- The union of sets. -/
def union : List CharSet → CharSet
  | [] => empty
  -- A set of one part is that part, without an empty set beside it.
  | [set] => set
  | set :: rest => .either set (union rest)

/-- The set of several characters. -/
def ofList (chars : List Char) : CharSet := union (chars.map single)

/-- The characters of the first set that are not in the second. -/
def minus (a b : CharSet) : CharSet := .both a (.other b)

/-- The characters of exactly one of two sets. -/
def differing (a b : CharSet) : CharSet := .either (a.minus b) (b.minus a)

/-- Decimal digits. -/
def digits : CharSet := between '0' '9'

/-- Digits of base sixteen. -/
def hexDigits : CharSet := union [digits, between 'A' 'F', between 'a' 'f']

/-- Letters of ASCII. -/
def asciiLetters : CharSet := .either (between 'A' 'Z') (between 'a' 'z')

/-- All characters but the line feed. -/
def inLine : CharSet := .other (single '\n')

end CharSet

end UdsCatalog.Schema
