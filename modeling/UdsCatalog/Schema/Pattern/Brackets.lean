import UdsCatalog.Schema.Pattern.Escape

/-!
Sets of characters between brackets: ranges, sets in sets, named sets, and what sets have in common or
where they differ.
-/

namespace UdsCatalog.Schema.Pattern

/-- A sign between brackets. -/
inductive BracketSign where
  | bare (c : Char)
  /-- A character that has no other meaning, because a backslash stands in front of it. -/
  | plain (c : Char)
  | property (set : CharSet) (inverted : Bool)
  deriving DecidableEq, Repr

namespace BracketSign

/-- The text of a sign. -/
def chars : BracketSign → List Char
  | .bare c => [c]
  -- The backslash comes back where it could have changed the meaning.
  | .plain c => if c.toNat < 0x80 && !c.isAlphanum then ['\\', c] else [c]
  | .property .. => []

/-- The signs of an escape; those for places and groups may not stand between brackets. -/
def ofEscape? : Escape → Option (List BracketSign)
  | .char c => some [.plain c]
  -- Written out as a set in the set, so that the reader of sets sees nothing new.
  | .hexDigits inverted =>
    some (((if inverted then "[^" else "[") ++ "0-9A-Fa-f]").toList.map .bare)
  | .property set inverted => some [.property set inverted]
  | _ => none

end BracketSign

/-- Reads signs up to the bracket that closes as many sets as are open; the number bounds how many
there are. -/
def readSigns (free : Bool) : Nat → Nat → List Char → Option (List BracketSign × List Char)
  | 0, _, _ => none
  | room + 1, opened, chars => do
    match ← pastFiller? free chars with
    | [] => none
    | '\\' :: rest =>
      let (escape, rest) ← readEscape rest
      let found ← BracketSign.ofEscape? escape
      let (signs, rest) ← readSigns free room opened rest
      return (found ++ signs, rest)
    -- Brackets are only counted here. What they enclose is read later.
    | '[' :: rest =>
      let (signs, rest) ← readSigns free room (opened + 1) rest
      return (.bare '[' :: signs, rest)
    | ']' :: rest =>
      -- The bracket that closes the outermost set is the last sign.
      if opened ≤ 1 then return ([.bare ']'], rest)
      else
        let (signs, rest) ← readSigns free room (opened - 1) rest
        return (.bare ']' :: signs, rest)
    | c :: rest =>
      let (signs, rest) ← readSigns free room opened rest
      return (.bare c :: signs, rest)

/-- Reads the signs behind an opening bracket. A closing bracket right at the front closes nothing. -/
def readBracketSigns (free : Bool) (chars : List Char) : Option (List BracketSign × List Char) :=
  let (caret, chars) : List Char × List Char := match chars with
    | '^' :: rest => (['^'], rest)
    | chars => ([], chars)
  -- A closing bracket at the front goes to the signs without being counted.
  let (bracket, chars) : List Char × List Char := match chars with
    | ']' :: rest => ([']'], rest)
    | chars => ([], chars)
  (readSigns free (chars.length + 1) 1 chars).map fun (signs, rest) =>
    ((caret ++ bracket).map .bare ++ signs, rest)

/-- How two sets are combined. -/
inductive SetOperation where
  | common
  | minus
  | differing
  deriving DecidableEq, Repr

/-- Combines two sets. -/
def SetOperation.apply : SetOperation → CharSet → CharSet → CharSet
  | .common, a, b => .both a b
  | .minus, a, b => a.minus b
  | .differing, a, b => a.differing b

/-- A set that is still open: its parts, the last one first, and the set on the left of an operation. -/
structure OpenSet where
  inverted : Bool
  parts : List CharSet
  left : Option (SetOperation × CharSet)
  deriving Repr

namespace OpenSet

/-- Adds a part. -/
def add (opened : OpenSet) (set : CharSet) : OpenSet := { opened with parts := set :: opened.parts }

/-- All cases of the characters of a set, if cases make no difference. -/
def cased (ignoreCase : Bool) (set : CharSet) : CharSet := if ignoreCase then .anyCase set else set

/-- The set up to here. -/
def current (ignoreCase : Bool) (opened : OpenSet) : CharSet :=
  let right := CharSet.union opened.parts.reverse
  match opened.left with
  | none => right
  -- Operations are carried out from left to right, each on all that came before.
  | some (operation, left) => operation.apply (cased ignoreCase left) (cased ignoreCase right)

/-- Begins the right side of an operation. -/
def operate (ignoreCase : Bool) (operation : SetOperation) (opened : OpenSet) : OpenSet :=
  { opened with parts := [], left := some (operation, opened.current ignoreCase) }

/-- The whole set. -/
def close (ignoreCase : Bool) (opened : OpenSet) : CharSet :=
  -- Cases are added first and the complement is taken last.
  let set := cased ignoreCase (opened.current ignoreCase)
  if opened.inverted then .other set else set

end OpenSet

/-- The sets of ASCII characters that have names. -/
def namedSet? (name : String) : Option CharSet :=
  match name with
  | "alnum" => some (.either .digits .asciiLetters)
  | "alpha" => some .asciiLetters
  | "ascii" => some (.range 0 0x7F)
  | "blank" => some (.ofList ['\t', ' '])
  | "cntrl" => some (.either (.range 0 0x1F) (.range 0x7F 0x7F))
  | "digit" => some .digits
  | "graph" => some (.between '!' '~')
  | "lower" => some (.between 'a' 'z')
  | "print" => some (.between ' ' '~')
  | "punct" =>
    some (.union [.between '!' '/', .between ':' '@', .between '[' '\x60', .between '\x7b' '~'])
  | "space" => some (.either (.between '\t' '\r') (.single ' '))
  | "upper" => some (.between 'A' 'Z')
  | "word" => some (.union [.digits, .asciiLetters, .single '_'])
  | "xdigit" => some .hexDigits
  | _ => none

/-- Reads a named set behind an opening bracket. -/
def readNamedSet (ignoreCase : Bool) (signs : List BracketSign) : Option (CharSet × List BracketSign) :=
  match signs with
  | .bare ':' :: rest =>
    let (inverted, rest) : Bool × List BracketSign := match rest with
      | .bare '^' :: rest => (true, rest)
      | rest => (false, rest)
    -- A set that merely begins like a named one is read as an ordinary set.
    let name := rest.takeWhile (· != .bare ':')
    match rest.drop name.length with
    | .bare ':' :: .bare ']' :: beyond =>
      (namedSet? (String.ofList (name.flatMap BracketSign.chars))).map fun set =>
        let set := OpenSet.cased ignoreCase set
        (if inverted then .other set else set, beyond)
    | _ => none
  | _ => none

/-- The character of a sign. -/
def BracketSign.char? : BracketSign → Option Char
  | .bare c | .plain c => some c
  | .property .. => none

/-- Reads a character, a range of characters or a property. A dash in front of the closing bracket or
of another dash makes no range. -/
def readPart (ignoreCase : Bool) : List BracketSign → Option (CharSet × List BracketSign)
  | [] => none
  | first :: rest =>
    let alone := match first with
      | .bare c | .plain c => CharSet.single c
      | .property set inverted =>
        let set := OpenSet.cased ignoreCase set
        if inverted then .other set else set
    match rest with
    -- The dash is left for the next part, where it stands for itself or for an operation.
    | .bare '-' :: .bare ']' :: _ | .bare '-' :: .bare '-' :: _ => some (alone, rest)
    | .bare '-' :: last :: beyond => do
      -- A property can be no end of a range.
      let low ← first.char?
      let high ← last.char?
      if low ≤ high then some (.between low high, beyond) else none
    | _ => some (alone, rest)

mutual

/-- Reads a set behind its opening bracket; the number bounds the signs. -/
def readSet (ignoreCase : Bool) : Nat → List BracketSign → Option (CharSet × List BracketSign)
  | 0, _ => none
  | room + 1, signs =>
    let (inverted, signs) : Bool × List BracketSign := match signs with
      | .bare '^' :: rest => (true, rest)
      | signs => (false, signs)
    -- Dashes at the front stand for themselves.
    let dashes := signs.takeWhile (· == .bare '-')
    let opened : OpenSet := ⟨inverted, dashes.map fun _ => .single '-', none⟩
    match dashes, signs.drop dashes.length with
    -- So does a closing bracket, unless dashes stand in front.
    | [], .bare ']' :: rest => readParts ignoreCase room (opened.add (.single ']')) rest
    | _, rest => readParts ignoreCase room opened rest

/-- Reads the parts of a set up to its closing bracket; the number bounds the signs. -/
def readParts (ignoreCase : Bool) :
    Nat → OpenSet → List BracketSign → Option (CharSet × List BracketSign)
  | 0, _, _ => none
  | room + 1, opened, signs =>
    match signs with
    | .bare ']' :: rest => some (opened.close ignoreCase, rest)
    | .bare '[' :: rest =>
      match readNamedSet ignoreCase rest with
      | some (set, rest) => readParts ignoreCase room (opened.add set) rest
      -- No named set, hence a set in the set.
      | none => do
        let (set, rest) ← readSet ignoreCase room rest
        readParts ignoreCase room (opened.add set) rest
    | .bare '&' :: .bare '&' :: rest =>
      readParts ignoreCase room (opened.operate ignoreCase .common) rest
    | .bare '-' :: .bare '-' :: rest =>
      readParts ignoreCase room (opened.operate ignoreCase .minus) rest
    | .bare '~' :: .bare '~' :: rest =>
      readParts ignoreCase room (opened.operate ignoreCase .differing) rest
    | signs => do
      let (set, rest) ← readPart ignoreCase signs
      readParts ignoreCase room (opened.add set) rest

end

/-- Reads a set behind its opening bracket. A bracket that ended a range closes nothing, so that the
signs behind the set go on as text of the pattern. -/
def readBrackets (free ignoreCase : Bool) (chars : List Char) : Option (CharSet × List Char) := do
  let (signs, rest) ← readBracketSigns free chars
  -- Each sign takes at most two steps, one into a set and one for a part.
  let (set, leftOver) ← readSet ignoreCase (2 * signs.length + 2) signs
  return (set, leftOver.flatMap BracketSign.chars ++ rest)

end UdsCatalog.Schema.Pattern
