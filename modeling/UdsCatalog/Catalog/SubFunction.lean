import UdsCatalog.Catalog.NameRegistry
import UdsCatalog.Catalog.Rejection
import UdsCatalog.Numeral.Hex
import UdsCatalog.Record.Basic
import UdsCatalog.Text.Blank
import UdsCatalog.Text.Literal

/-! Sub-functions of a service: single values or ranges of values, in a naming scope of their own. -/

namespace UdsCatalog

/-- A sub-function, or a range of them. -/
structure SubFunction where
  name : String
  startText : String
  endText : String
  start : Nat
  stop : Nat
  displayName : String
  mnemonic : String
  detail : String
  deriving DecidableEq, Repr

namespace SubFunction

/-- The largest value of a sub-function; generated tables keep it in one byte. -/
def greatest : Nat := 0xFF

/-- The field of a record that holds the values. -/
def valuesField : String := "Bit6to0"

/-- The item covers more than one value. -/
def isRange (item : SubFunction) : Bool := item.start != item.stop

/-- The characters in front of the first `to` and those behind it. -/
def splitRange : List Char → Option (List Char × List Char)
  | [] => none
  -- The first one decides, so a second one stays in the text behind and makes it unreadable.
  | 't' :: 'o' :: rest => some ([], rest)
  | c :: rest =>
    match splitRange rest with
    | some (before, behind) => some (c :: before, behind)
    | none => none

/-- The texts of the first and the last value, without blanks. Without a `to` both are the whole. -/
def bounds (values : String) : String × String :=
  match splitRange values.toList with
  | some (before, behind) =>
    -- Blanks go from the inside of the two texts as well, not only from their ends.
    (Text.stripBlanks (String.ofList before), Text.stripBlanks (String.ofList behind))
  -- A single value is a range that ends where it starts.
  | none => (Text.stripBlanks values, Text.stripBlanks values)

/-- Reads a sub-function from its record. -/
def ofRecord (path : Files.Path) (record : Record.SubFunction) : Except Rejection SubFunction :=
  -- A rejection shows the whole field, also when only one of the two bounds is wrong.
  let rejected cause := Except.error ⟨cause, record.name, valuesField, record.values, path⟩
  let (startText, endText) := bounds record.values
  -- The bounds are read in order, so a record with two wrong ones is rejected for the first.
  match Numeral.parseHex 32 startText with
  | .error _ => rejected .unreadable
  | .ok start =>
    match Numeral.parseHex 32 endText with
    | .error _ => rejected .unreadable
    | .ok stop =>
      -- The start needs no bound of its own, for it is not above the stop.
      if stop < start ∨ greatest < stop then rejected .outOfBound
      else
        .ok {
          name := record.name
          startText, endText, start, stop
          displayName := record.shortName
          mnemonic := record.mnemonic
          detail := Text.escapeDetail record.details }

/-- The sub-functions of a service, in order, with their naming scope. -/
structure Collection where
  items : List SubFunction
  names : NameRegistry
  deriving DecidableEq, Repr

namespace Collection

/-- A collection without items. -/
def empty : Collection := ⟨[], .fresh⟩

/-- Appends an item under a name from the scope. -/
def add (collection : Collection) (item : SubFunction) : Collection :=
  let (name, names) := collection.names.register item.name
  -- The item keeps everything but its name, which the scope may have numbered.
  ⟨collection.items ++ [{ item with name }], names⟩

end Collection

/-- Adds the items of the records one after the other; the first rejected record decides. -/
def addAll (path : Files.Path) : Collection → List Record.SubFunction → Except Rejection Collection
  | collection, [] => .ok collection
  | collection, record :: rest =>
    match ofRecord path record with
    | .ok item => addAll path (collection.add item) rest
    -- What was collected so far is dropped, and later records are not read.
    | .error rejection => .error rejection

/-- The sub-functions of the service that the records know under the given name. -/
def collect (owner : String) (table : Record.Table Record.SubFunction) :
    Except Rejection Collection :=
  -- Every service begins with a scope of its own, so names repeat only within one service.
  addAll table.path .empty (table.records.filter (·.owner == owner))

end SubFunction

end UdsCatalog
