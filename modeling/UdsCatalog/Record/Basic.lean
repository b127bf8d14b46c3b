import UdsCatalog.Files.Path
import UdsCatalog.Record.Form

/-! The records of the three definition tables, and how they are read from documents. -/

namespace UdsCatalog.Record

/-- A row of the service table. -/
structure Service where
  name : String
  shortName : String
  hex : String
  defaultSession : String
  nonDefaultSession : String
  deriving DecidableEq, Repr

/-- A row of the sub-function table. -/
structure SubFunction where
  /-- The name of the owning service, as the service table writes it. -/
  owner : String
  name : String
  /-- One value, or the first and the last value of a range. -/
  values : String
  shortName : String
  mnemonic : String
  details : String
  deriving DecidableEq, Repr

/-- A row of the layout table: one field of a request or a response. -/
structure Layout where
  className : String
  name : String
  direction : String
  /-- The position in the message, counted from one. -/
  dataByte : Nat
  size : String
  details : Option String
  deriving DecidableEq, Repr

/-- The records of a table and the file they come from. -/
structure Table (ρ : Type) where
  path : Files.Path
  records : List ρ
  deriving DecidableEq, Repr

/-- The form of a row of the service table. -/
def Service.form : Form where
  title := "struct ServiceRecord"
  fields :=
    [("NameForProgrammer", .text), ("ShortName", .text), ("Hex", .text), ("DefaultSession", .text),
      ("NonDefaultSession", .text)]
  required := 5

/-- Reads a row of the service table. -/
def Service.ofJson (json : Json) : Except Malformed Service := do
  let fields ← Service.form.read json
  return {
    name := ← textIn fields "NameForProgrammer"
    shortName := ← textIn fields "ShortName"
    hex := ← textIn fields "Hex"
    defaultSession := ← textIn fields "DefaultSession"
    nonDefaultSession := ← textIn fields "NonDefaultSession" }

/-- The form of a row of the sub-function table. -/
def SubFunction.form : Form where
  title := "struct ServiceSubRecord"
  fields :=
    [("ServiceNameForProgrammer", .text), ("SubFunctionNameForProgrammer", .text), ("Bit6to0", .text),
      ("ShortName", .text), ("Mnemonic", .text), ("Details", .text)]
  required := 6

/-- Reads a row of the sub-function table. -/
def SubFunction.ofJson (json : Json) : Except Malformed SubFunction := do
  let fields ← SubFunction.form.read json
  return {
    owner := ← textIn fields "ServiceNameForProgrammer"
    name := ← textIn fields "SubFunctionNameForProgrammer"
    values := ← textIn fields "Bit6to0"
    shortName := ← textIn fields "ShortName"
    mnemonic := ← textIn fields "Mnemonic"
    details := ← textIn fields "Details" }

/-- The form of a row of the layout table. -/
def Layout.form : Form where
  title := "struct ReqRespRecord"
  fields :=
    [("MemClassName", .text), ("NameForProgrammer", .text), ("ReqResp", .text), ("DataByte", .word),
      ("Size", .text), ("Details", .optionalText)]
  required := 5

/-- Reads a row of the layout table. -/
def Layout.ofJson (json : Json) : Except Malformed Layout := do
  let fields ← Layout.form.read json
  return {
    className := ← textIn fields "MemClassName"
    name := ← textIn fields "NameForProgrammer"
    direction := ← textIn fields "ReqResp"
    dataByte := ← wordIn fields "DataByte"
    size := ← textIn fields "Size"
    details := ← optionalTextIn fields "Details" }

/-- The three kinds of tables. -/
inductive Kind where
  | services
  | subFunctions
  | layouts
  deriving DecidableEq, Repr

/-- The field of a document that holds the rows of a table. -/
def Kind.key : Kind → String
  | .services => "Service"
  | .subFunctions => "ServiceSub"
  | .layouts => "ReqRespItem"

/-- The name of a table in messages. -/
def Kind.title : Kind → String
  | .services => "struct ServiceTable"
  | .subFunctions => "struct ServiceSubTable"
  | .layouts => "struct ReqRespTable"

/-- Reads the rows of a table one after the other; the first malformed one decides. -/
def readAll {ρ : Type} (read : Json → Except Malformed ρ) : List Json → Except Malformed (List ρ)
  | [] => .ok []
  | json :: rest => do
    let record ← read json
    return record :: (← readAll read rest)

/-- Reads the rows from the value that holds them. -/
def readRows {ρ : Type} (read : Json → Except Malformed ρ) : Json → Except Malformed (List ρ)
  | .array items => readAll read items
  | other => .error (.wrongShape (.of other) "a sequence")

/-- Reads a table: an object with its rows in one field, or a sequence with the rows as its only item.
Without rows the table is empty. -/
def readTable {ρ : Type} (kind : Kind) (read : Json → Except Malformed ρ) :
    Json → Except Malformed (List ρ)
  | .object fields =>
    match fields.lookup kind.key with
    -- A table without its field is an empty one, and other fields do not matter.
    | none => .ok []
    | some rows => readRows read rows
  | .array [] => .ok []
  | .array [rows] => readRows read rows
  -- The rows are read first, so a malformed one is noticed before the surplus items are.
  | .array (rows :: more) =>
    match readRows read rows with
    | .ok _ => .error (.tooLong (more.length + 1))
    | .error malformed => .error malformed
  | other => .error (.wrongShape (.of other) kind.title)

/-- Reads the rows of the service table. -/
def Service.tableOfJson : Json → Except Malformed (List Service) := readTable .services Service.ofJson

/-- Reads the rows of the sub-function table. -/
def SubFunction.tableOfJson : Json → Except Malformed (List SubFunction) :=
  readTable .subFunctions SubFunction.ofJson

/-- Reads the rows of the layout table. -/
def Layout.tableOfJson : Json → Except Malformed (List Layout) := readTable .layouts Layout.ofJson

end UdsCatalog.Record
