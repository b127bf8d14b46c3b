import UdsCatalog.Numeral.Basic
import UdsCatalog.Settings.Value
import UdsCatalog.Text.Reads

/-!
Ways from the outermost table to a value: names with dots between them, and positions between brackets.
Positions below zero count from the end.
-/

namespace UdsCatalog.Settings

/-- One step to a value inside another. -/
inductive Step where
  | name (name : String)
  | position (index : Int)
  deriving DecidableEq, Repr

namespace Step

/-- The characters of names in ways. -/
def isNameChar (c : Char) : Bool := c.isAlphanum || c == '_' || c == '-' || c == ' '

/-- Reads a name. -/
def readName (chars : List Char) : Option (Step × List Char) :=
  let name := chars.takeWhile isNameChar
  if name.isEmpty then none else some (.name (String.ofList name), chars.dropWhile isNameChar)

/-- A text without blanks in front. -/
def pastGap (chars : List Char) : List Char := chars.dropWhile fun c => c == ' ' || c == '\t'

/-- Reads a position up to its closing bracket. -/
def readPosition (chars : List Char) : Option (Step × List Char) := do
  let chars := pastGap chars
  -- Blanks may stand on either side of a position, but not behind its sign.
  let sign := chars.takeWhile (· == '-')
  let rest := chars.drop sign.length
  let digits := rest.takeWhile Char.isDigit
  if 1 < sign.length || digits.isEmpty then none
  let index ← Numeral.readInt64? (sign ++ digits)
  let behind ← Text.past? [']'] (pastGap (rest.dropWhile Char.isDigit))
  return (.position index, behind)

/-- Reads the steps behind the first one, up to the end of the text. -/
def readMore : Nat → List Char → Option (List Step)
  | _, [] => some []
  | 0, _ :: _ => none
  | room + 1, c :: chars => do
    -- Each step takes at least the character in front of it, so the length is room enough.
    let (step, rest) ←
      if c == '.' then readName chars else if c == '[' then readPosition chars else none
    return step :: (← readMore room rest)

/-- The steps of a way. A text that is no way is a single name. -/
def ofText (text : String) : List Step :=
  let chars := text.toList
  let steps := do
    let (first, rest) ← readName chars
    return first :: (← readMore rest.length rest)
  -- Names with other characters are meant as they are, dots and brackets included.
  steps.getD [.name text]

/-- Makes room for a position in a list: the list with as many empty values as that takes, and where
the position then is. -/
def makeRoom (index : Int) (items : List Value) : List Value × Nat :=
  let place := if 0 ≤ index then index else items.length + index
  -- Counting back beyond the front puts new values in front, and the position is the first of them.
  if place < 0 then (List.replicate (-place).toNat .nothing ++ items, 0)
  else (items ++ List.replicate (place.toNat + 1 - items.length) .nothing, place.toNat)

/-- Changes the value behind one step, which is made if it is missing. -/
def change (step : Step) (alter : Value → Value) : Value → Value :=
  match step with
  | .name key => Value.changeFields fun fields =>
    Named.put key (alter ((fields.lookup key).getD .nothing)) fields
  | .position index => Value.changeItems fun items =>
    let (items, place) := makeRoom index items
    items.set place (alter ((items[place]?).getD .nothing))

/-- Puts a value behind the last step. -/
def putAt (step : Step) (value : Value) : Value → Value :=
  match step with
  -- Only under a name are tables merged; at a position the old value is replaced.
  | .name key => Value.changeFields fun fields => Value.putInto key fields value
  | .position _ => step.change fun _ => value

/-- Puts a value at the end of a way; what is missing on the way is made. -/
def putAlong (value : Value) : List Step → Value → Value
  -- A way has at least one step, so nothing is put here.
  | [], target => target
  | [last], target => last.putAt value target
  | step :: rest, target => step.change (putAlong value rest) target

end Step

/-- Puts the values of a source over those of earlier ones. Its outermost names are ways. -/
def Value.putLayer (target : Value) (layer : Named Value) : Value :=
  layer.foldl (fun target (name, value) => Step.putAlong value (Step.ofText name) target) target

end UdsCatalog.Settings
