import UdsCatalog.Definition.BuiltIn
import UdsCatalog.Failure
import UdsCatalog.Json.Reader
import UdsCatalog.Schema.Reader

/-!
Definition documents: read from a file and held against the schema of their table. What a schema asks for
is up to a validator, and the standard one stands for it where none is named.
-/

namespace UdsCatalog.Definition

/-- Where schemas come from. -/
inductive SchemaSource where
  /-- The schemas that the program brings along. -/
  | builtIn
  | directory (path : Files.Path)
  deriving DecidableEq, Repr

/-- The directory that built-in files are said to be in. -/
def builtInDirectory : Files.Path := ⟨"<embedded>"⟩

/-- A document from text. -/
def readDocument (text : String) : Except Failure Json :=
  match Json.parse text with
  | .ok document => .ok document
  | .error fault => .error (.document fault)

/-- The text of a file. -/
def readFile (tree : Files.Tree) (path : Files.Path) : Except Failure String :=
  match tree.readText path with
  | .ok text => .ok text
  | .error fault => .error (.files fault)

/-- Finds the document of a schema by its file name, with the path that messages name. -/
def SchemaSource.find (source : SchemaSource) (tree : Files.Tree) (file : Files.Path) :
    Except Failure (Files.Path × Json) :=
  match source with
  | .builtIn =>
    -- Built-in files have a path too, for messages that name one.
    let path := builtInDirectory.join file
    match builtInSchema? file with
    | some document => .ok (path, document)
    | none => .error (.missing .schema path)
  | .directory root =>
    let path := root.join file
    -- A schema that cannot be read is a fault of its own, and not the same as a missing one.
    if tree.isFile path then do
      let document ← readDocument (← readFile tree path)
      return (path, document)
    else .error (.missing .schema path)

/-- Compiles a schema; a document that is no schema is refused with a reason. -/
def compileWith (validator : Schema.Validator) (path : Files.Path) (document : Json) :
    Except Failure validator.Compiled :=
  match validator.compile document with
  | .ok schema => .ok schema
  | .error reason => .error (.invalidSchema path reason)

/-- Reads a schema of the standard keywords. -/
def compileSchema (path : Files.Path) (document : Json) : Except Failure Schema :=
  compileWith .standard path document

/-- A definition document that conforms to its schema. -/
structure Document where
  path : Files.Path
  root : Json
  deriving Repr

/-- Holds a document against the schema of its table. -/
def Document.ofJsonWith (validator : Schema.Validator) (tree : Files.Tree) (source : SchemaSource)
    (kind : Record.Kind) (path : Files.Path) (root : Json) : Except Failure Document := do
  -- The schema is found and compiled before the document is looked at.
  let (schemaPath, schemaRoot) ← source.find tree (schemaFile kind)
  let schema ← compileWith validator schemaPath schemaRoot
  match validator.violations schema root with
  | [] => return ⟨path, root⟩
  -- All violations are told at once, not only the first.
  | violations => throw (.violations path violations)

/-- Reads a document from a file and holds it against the schema of its table. -/
def Document.loadWith (validator : Schema.Validator) (tree : Files.Tree) (source : SchemaSource)
    (kind : Record.Kind) (path : Files.Path) : Except Failure Document :=
  -- A directory of that name counts as missing.
  if tree.isFile path then do
    let text ← readFile tree path
    match Json.parse text with
    -- A definition that is no document is the fault of its author, so the message names the file.
    | .error fault => throw (.record path (.text fault))
    | .ok root => Document.ofJsonWith validator tree source kind path root
  else .error (.missing .definition path)

/-- Holds a document against a schema of the standard keywords. -/
def Document.ofJson (tree : Files.Tree) (source : SchemaSource) (kind : Record.Kind)
    (path : Files.Path) (root : Json) : Except Failure Document :=
  Document.ofJsonWith .standard tree source kind path root

/-- Reads a document from a file and holds it against a schema of the standard keywords. -/
def Document.load (tree : Files.Tree) (source : SchemaSource) (kind : Record.Kind)
    (path : Files.Path) : Except Failure Document :=
  Document.loadWith .standard tree source kind path

/-- The rows of a document. -/
def Document.records {ρ : Type} (document : Document)
    (read : Json → Except Record.Malformed (List ρ)) : Except Failure (Record.Table ρ) :=
  match read document.root with
  | .ok records => .ok ⟨document.path, records⟩
  -- A schema of the user's own may let through what the table cannot hold.
  | .error malformed => .error (.record document.path (.shape malformed))

end UdsCatalog.Definition
