import UdsCatalog.Catalog.Basic
import UdsCatalog.Definition.Document

/-! Loading the three definition tables, and the catalog that they describe. -/

namespace UdsCatalog.Definition

/-- The file name that a table has unless another one is given. -/
def defaultFile : Record.Kind → String
  | .services => "serv.json"
  | .subFunctions => "serv_sub.json"
  | .layouts => "req_resp.json"

/-- Where the three tables and their schemas are. -/
structure Paths where
  services : Files.Path
  subFunctions : Files.Path
  layouts : Files.Path
  schemas : SchemaSource
  deriving DecidableEq, Repr

namespace Paths

/-- Tables of the usual names in a directory, with the built-in schemas. -/
def inDirectory (directory : Files.Path) : Paths where
  services := directory.join (defaultFile .services)
  subFunctions := directory.join (defaultFile .subFunctions)
  layouts := directory.join (defaultFile .layouts)
  -- Another place for schemas is a matter of the settings.
  schemas := .builtIn

/-- The tables in the order in which they are looked for. -/
def files (paths : Paths) : List Files.Path := [paths.services, paths.subFunctions, paths.layouts]

/-- All tables are there; the first missing one is named. -/
def ensureExist (paths : Paths) (tree : Files.Tree) : Except Failure Unit :=
  -- This is asked before anything is read, so a missing last table is told before a broken first one.
  match paths.files.find? fun path => !tree.isFile path with
  | none => .ok ()
  | some path => .error (.missing .definition path)

section With

variable (validator : Schema.Validator)

/-- Loads the records of one table. -/
def loadTableWith {ρ : Type} (paths : Paths) (tree : Files.Tree) (kind : Record.Kind)
    (path : Files.Path) (read : Json → Except Record.Malformed (List ρ)) :
    Except Failure (Record.Table ρ) := do
  (← Document.loadWith validator tree paths.schemas kind path).records read

/-- Loads the three tables, one after the other, once all of them are there. -/
def loadWith (paths : Paths) (tree : Files.Tree) : Except Failure Definitions := do
  -- From here on the first failure ends the loading.
  paths.ensureExist tree
  let services ←
    paths.loadTableWith validator tree .services paths.services Record.Service.tableOfJson
  let subFunctions ←
    paths.loadTableWith validator tree .subFunctions paths.subFunctions Record.SubFunction.tableOfJson
  let layouts ← paths.loadTableWith validator tree .layouts paths.layouts Record.Layout.tableOfJson
  return ⟨services, subFunctions, layouts⟩

/-- Loads the three tables and builds the catalog. -/
def loadCatalogWith (paths : Paths) (tree : Files.Tree) : Except Failure Catalog := do
  -- Records are only interpreted when all three tables have conformed to their schemas.
  match Catalog.build (← paths.loadWith validator tree) with
  | .ok catalog => return catalog
  | .error rejection => throw (.rejected rejection)

end With

/-- Loads the records of one table whose schema has the standard keywords. -/
def loadTable {ρ : Type} (paths : Paths) (tree : Files.Tree) (kind : Record.Kind) (path : Files.Path)
    (read : Json → Except Record.Malformed (List ρ)) : Except Failure (Record.Table ρ) :=
  paths.loadTableWith .standard tree kind path read

/-- Loads three tables whose schemas have the standard keywords. -/
def load (paths : Paths) (tree : Files.Tree) : Except Failure Definitions :=
  paths.loadWith .standard tree

/-- Loads three tables whose schemas have the standard keywords, and builds the catalog. -/
def loadCatalog (paths : Paths) (tree : Files.Tree) : Except Failure Catalog :=
  paths.loadCatalogWith .standard tree

end Paths

end UdsCatalog.Definition
