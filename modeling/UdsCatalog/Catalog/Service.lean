import UdsCatalog.Catalog.SubFunction

/-! Services: each with its code and its sub-functions, in one naming scope. -/

namespace UdsCatalog

/-- A service of the diagnostic protocol. -/
structure Service where
  name : String
  hexText : String
  code : Nat
  shortName : String
  defaultSession : String
  nonDefaultSession : String
  subFunctions : SubFunction.Collection
  deriving DecidableEq, Repr

namespace Service

/-- The field of a record that holds the code. -/
def codeField : String := "Hex"

/-- Codes of services stay below this bound. -/
def codeBound : Nat := 0x100

/-- A label of a session, with underscores for spaces. -/
def label (text : String) : String :=
  String.ofList (text.toList.map fun c => if c == ' ' then '_' else c)

/-- Reads the code of a service. A code that is too large for any number is out of bound as well. -/
def readCode (path : Files.Path) (record : Record.Service) : Except Rejection Nat :=
  -- Messages name the record and show its text, blanks included.
  let rejected cause := Except.error ⟨cause, record.name, codeField, record.hex, path⟩
  match Numeral.parseHex 64 (String.ofList (Text.trim record.hex.toList)) with
  -- The reader takes numbers of 64 bits, and the bound is a check of its own.
  | .ok code => if code < codeBound then .ok code else rejected .outOfBound
  -- A number with too many digits for 64 bits is a number all the same.
  | .error .overflow => rejected .outOfBound
  | .error _ => rejected .unreadable

/-- Reads a service and its sub-functions. They name it as the record does. -/
def ofRecord (path : Files.Path) (subFunctions : Record.Table Record.SubFunction)
    (record : Record.Service) : Except Rejection Service :=
  match readCode path record with
  | .error rejection => .error rejection
  | .ok code =>
    -- The code comes first: a service with a bad code says so even if its sub-functions are bad.
    match SubFunction.collect record.name subFunctions with
    | .error rejection => .error rejection
    | .ok collection =>
      .ok {
        -- This is still the written name. The scope of the services gives the final one.
        name := record.name
        hexText := record.hex
        code
        shortName := record.shortName
        defaultSession := label record.defaultSession
        nonDefaultSession := label record.nonDefaultSession
        subFunctions := collection }

/-- A service has sub-functions. -/
def hasSubFunctions (service : Service) : Bool := !service.subFunctions.items.isEmpty

/-- Services in order, with their naming scope. -/
structure Collection where
  items : List Service
  names : NameRegistry
  deriving DecidableEq, Repr

namespace Collection

/-- A collection without services. -/
def empty : Collection := ⟨[], .fresh⟩

/-- Appends a service under a name from the scope. -/
def add (collection : Collection) (item : Service) : Collection :=
  -- The sub-functions were found by the written name, so numbering cannot lose them.
  let (name, names) := collection.names.register item.name
  ⟨collection.items ++ [{ item with name }], names⟩

end Collection

/-- Adds the services of the records one after the other; the first rejected record decides. -/
def addAll (path : Files.Path) (subFunctions : Record.Table Record.SubFunction) :
    Collection → List Record.Service → Except Rejection Collection
  | collection, [] => .ok collection
  | collection, record :: rest =>
    match ofRecord path subFunctions record with
    -- A rejected service registers no name, but then nothing is built at all.
    | .ok item => addAll path subFunctions (collection.add item) rest
    | .error rejection => .error rejection

/-- The services of a table, in its order. -/
def collect (services : Record.Table Record.Service) (subFunctions : Record.Table Record.SubFunction) :
    Except Rejection Collection :=
  addAll services.path subFunctions .empty services.records

end Service

end UdsCatalog
