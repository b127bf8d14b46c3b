import UdsCatalog.Named
import UdsCatalog.Settings.Refusal
import UdsCatalog.Text.Letter
import UdsCatalog.Toml.Basic

/-! Values that sources give for settings, and how those of a later source go over those of an earlier. -/

namespace UdsCatalog.Settings

/-- A value that a source gives. -/
inductive Value where
  | nothing
  | text (value : String)
  | int (value : Int)
  | float (value : FloatingPoint)
  | bool (value : Bool)
  /-- A list, with the file that it was read from. -/
  | list (origin : Option Files.Path) (items : List Value)
  /-- A table, with the file that it was read from. A table of several sources has none. -/
  | table (origin : Option Files.Path) (fields : List (String × Value))
  deriving Repr

namespace Value

instance : Inhabited Value := ⟨.nothing⟩

/-- What a value is, as a message names it. -/
def shape : Value → Shape
  | .nothing => .nothing
  | .text value => .text value
  | .int value => .integer value
  | .float value => .float value
  | .bool value => .boolean value
  | .list .. => .sequence
  | .table .. => .map

/-- The file that a value was read from, as far as it is kept. -/
def origin? : Value → Option Files.Path
  | .list origin _ => origin
  | .table origin _ => origin
  | _ => none

/-- The fields of a table. Any other value has none. -/
def fields : Value → Named Value
  | .table _ fields => fields
  | _ => []

/-- Changes the fields of a table. Any other value becomes a table. -/
def changeFields (change : Named Value → Named Value) : Value → Value
  | .table origin fields => .table origin (change fields)
  -- What is no table is lost, since a field can only stand in a table.
  | _ => .table none (change [])

/-- Changes the items of a list. Any other value becomes a list. -/
def changeItems (change : List Value → List Value) : Value → Value
  | .list origin items => .list origin (change items)
  | _ => .list none (change [])

mutual

/-- A value of a document. Names are in small letters. -/
def ofToml (origin : Files.Path) : Toml → Value
  | .text value => .text value
  | .int value => .int value
  | .float value => .float value
  | .bool value => .bool value
  -- Nothing that settings know is a date, so it is kept as it is shown.
  | .moment value => .text value
  | .list items => .list (some origin) (listOfToml origin items)
  | .table fields => .table (some origin) (fieldsOfToml origin fields)

/-- The values of a list. -/
def listOfToml (origin : Files.Path) : List Toml → List Value
  | [] => []
  | item :: rest => ofToml origin item :: listOfToml origin rest

/-- The values of a table, each under its name in small letters. -/
def fieldsOfToml (origin : Files.Path) : List (String × Toml) → List (String × Value)
  | [] => []
  | (name, value) :: rest => (Text.toSmall name, ofToml origin value) :: fieldsOfToml origin rest

end

mutual

/-- Puts a value under a name of a table. A table goes over what is there field by field, and any
other value takes its place. -/
def putInto (name : String) (target : Named Value) : Value → Named Value
  | .table _ fields =>
    -- A table that is put over another kind of value starts from no fields.
    let there := target.lookup name
    -- An empty table leaves everything in place, whatever it is.
    if fields.isEmpty && there.isSome then target
    -- The result may come from several files, so it names none of them.
    else Named.put name (.table none (mergeInto ((there.getD .nothing).fields) fields)) target
  | value => Named.put name value target

/-- Puts the fields of a table over those of another. -/
def mergeInto (target : Named Value) : List (String × Value) → Named Value
  | [] => target
  | (name, value) :: rest => mergeInto (putInto name target value) rest

end

end Value

end UdsCatalog.Settings
