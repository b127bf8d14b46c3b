import UdsCatalog.Catalog.Rejection
import UdsCatalog.Numeral.Basic
import UdsCatalog.Record.Basic
import UdsCatalog.Text.Blank
import UdsCatalog.Text.Literal

/-! Byte layouts of requests and responses: fields, gathered into classes by name. -/

namespace UdsCatalog

/-- The part a message plays. -/
inductive Direction where
  | request
  | positive
  | negative
  deriving DecidableEq, Repr

/-- The tag of a direction in definition files and in class names. -/
def Direction.tag : Direction → String
  | .request => "Req"
  | .positive => "PosResp"
  | .negative => "NegResp"

/-- The direction of a tag. -/
def Direction.ofTag? (tag : String) : Option Direction :=
  if tag == "Req" then some .request
  else if tag == "PosResp" then some .positive
  else if tag == "NegResp" then some .negative
  -- Tags are compared letter by letter; another case of a letter makes another tag.
  else none

/-- Sizes that an unsigned integer type has. -/
inductive Width where
  | w8
  | w16
  | w32
  | w64
  deriving DecidableEq, Repr

namespace Width

/-- The width of so many bytes. -/
def ofBytes? (size : Int) : Option Width :=
  if size = 1 then some .w8
  else if size = 2 then some .w16
  else if size = 4 then some .w32
  else if size = 8 then some .w64
  -- No integer type has three bytes, or more than eight.
  else none

/-- The width in bits. -/
def bits : Width → Nat
  | .w8 => 8
  | .w16 => 16
  | .w32 => 32
  | .w64 => 64

/-- The integer type of the width in generated code. -/
def typeName : Width → String
  | .w8 => "uint8_t"
  | .w16 => "uint16_t"
  | .w32 => "uint32_t"
  | .w64 => "uint64_t"

end Width

/-- A field of a request or a response. -/
structure LayoutField where
  name : String
  direction : Direction
  /-- The position in the message, counted from zero. -/
  byteIndex : Nat
  /-- The text of the size when it is a number, else nothing. -/
  sizeText : String
  size : Option Int
  detail : String
  deriving DecidableEq, Repr

namespace LayoutField

/-- The field of a record that holds the direction. -/
def directionField : String := "ReqResp"

/-- The field of a record that holds the position. -/
def positionField : String := "DataByte"

/-- Reads a field from its record. Positions count from one, and a size that is no number is unknown. -/
def ofRecord (path : Files.Path) (record : Record.Layout) : Except Rejection LayoutField :=
  match Direction.ofTag? record.direction with
  -- The direction is looked at first, so it decides what is said about a record with two faults.
  | none => .error ⟨.unreadable, record.name, directionField, record.direction, path⟩
  | some direction =>
    match record.dataByte with
    -- Zero is the one natural number that is no position.
    | 0 => .error ⟨.outOfBound, record.name, positionField, "0", path⟩
    | byteIndex + 1 =>
      -- Words such as a rest of the message are allowed here. Such a field reaches to the end.
      let size := Numeral.readInt64? (Text.trim record.size.toList)
      .ok {
        name := record.name
        direction
        byteIndex
        -- The text is kept as it is written, with the blanks that were left out for reading.
        sizeText := if size.isSome then record.size else ""
        size
        detail := Text.escapeDetail (record.details.getD "") }

/-- The size is known. -/
def sizeKnown (field : LayoutField) : Bool := field.size.isSome

/-- The width of the field, when an integer type has its size. -/
def width? (field : LayoutField) : Option Width := field.size.bind Width.ofBytes?

end LayoutField

/-- The fields of one class name, in order. -/
structure LayoutClass where
  name : String
  items : List LayoutField
  deriving DecidableEq, Repr

namespace LayoutClass

/-- The name of a class with the direction of its first field; none for a class without fields. -/
def qualifiedName? (layout : LayoutClass) : Option String :=
  match layout.items with
  | [] => none
  -- All fields of a class are expected to go the same way, so the first one is asked.
  | first :: _ => some (layout.name ++ first.direction.tag)

/-- A class for every name, in the order of first appearance, still without fields. -/
def classesOf : List LayoutClass → List Record.Layout → List LayoutClass
  | classes, [] => classes
  | classes, record :: rest =>
    -- The place of a class is that of its first record, and later records do not move it.
    if classes.any (·.name == record.className) then classesOf classes rest
    else classesOf (classes ++ [⟨record.className, []⟩]) rest

/-- Appends a field to the first class of the name. -/
def place (name : String) (field : LayoutField) : List LayoutClass → List LayoutClass
  | [] => []
  | layout :: rest =>
    -- Names of classes do not repeat, so the search ends at the first hit.
    if layout.name == name then { layout with items := layout.items ++ [field] } :: rest
    else layout :: place name field rest

/-- Places the fields of the records one after the other; the first rejected record decides. -/
def placeAll (path : Files.Path) :
    List LayoutClass → List Record.Layout → Except Rejection (List LayoutClass)
  | classes, [] => .ok classes
  | classes, record :: rest =>
    match LayoutField.ofRecord path record with
    | .ok field => placeAll path (place record.className field classes) rest
    | .error rejection => .error rejection

/-- The classes of a table: one for each class name, with its fields in the order of the table. -/
def collect (table : Record.Table Record.Layout) : Except Rejection (List LayoutClass) :=
  -- All classes are there before the first field is placed, so every field finds its class.
  placeAll table.path (classesOf [] table.records) table.records

end LayoutClass

end UdsCatalog
