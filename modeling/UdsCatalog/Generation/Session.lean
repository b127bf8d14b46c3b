import UdsCatalog.Definition.Document
import UdsCatalog.Generation.BuiltIn
import UdsCatalog.Generation.Context
import UdsCatalog.Generation.Engine

/-! Sessions: templates are added under names, and rendered with what they see of a catalog. -/

namespace UdsCatalog.Generation

/-- Where the two templates of generated code come from. -/
inductive TemplateSource where
  /-- The templates that the program brings along. -/
  | builtIn
  /-- A directory with files of the names of the built-in templates. -/
  | directory (path : Files.Path)
  deriving DecidableEq, Repr

namespace Engine

variable (engine : Engine)

/-- Adds a template from text under a name; in messages it is named by the given source. -/
def addFrom (session : engine.Library) (name source text : String) :
    Except Failure Unit × engine.Library :=
  match engine.add session name source text with
  | (.ok (), session) => (.ok (), session)
  -- The library decides what a failed addition leaves behind.
  | (.error failure, session) => (.error (.template failure), session)

/-- Adds a template from text. -/
def addText (session : engine.Library) (name text : String) : Except Failure Unit × engine.Library :=
  engine.addFrom session name ("'" ++ name ++ "'") text

/-- Adds a template from a file. -/
def addFile (session : engine.Library) (tree : Files.Tree) (name : String) (path : Files.Path) :
    Except Failure Unit × engine.Library :=
  if tree.isFile path then
    match tree.readText path with
    | .ok text => engine.addFrom session name (Text.quotedPath path.text) text
    -- Why the file cannot be read is not told.
    | .error _ => (.error (.template (.unreadable path.text)), session)
  else (.error (.missing .template path), session)

/-- Adds one of the two templates of generated code. -/
def addFixed (session : engine.Library) (tree : Files.Tree) (source : TemplateSource) (name : String) :
    Except Failure Unit × engine.Library :=
  match source with
  | .builtIn =>
    match builtInTemplate? ⟨name⟩ with
    | some text => engine.addText session name text
    -- No other name is ever asked for, yet the lookup can fail for any name.
    | none => (.error (.missing .template (Definition.builtInDirectory.join ⟨name⟩)), session)
  -- The template is known by its short name, wherever its file is.
  | .directory root => engine.addFile session tree name (root.join ⟨name⟩)

/-- Renders a template with a catalog. -/
def renderCatalog (session : engine.Library) (moment : engine.Moment) (name : String)
    (catalog : Catalog) : Except Failure String := do
  -- The context comes first, so a class without fields is told even if the template is missing.
  let given ← context catalog
  match engine.render session moment name given with
  | .ok text => return text
  | .error failure => throw (.template failure)

end Engine

/-- The templates of a session. -/
abbrev Session := Template.Library

namespace Session

/-- A session without templates. -/
abbrev fresh : Session := Engine.standard.empty

/-- Adds a template from text. -/
abbrev addText (session : Session) (name text : String) : Except Failure Unit × Session :=
  Engine.standard.addText session name text

/-- Adds a template from a file. -/
abbrev addFile (session : Session) (tree : Files.Tree) (name : String) (path : Files.Path) :
    Except Failure Unit × Session :=
  Engine.standard.addFile session tree name path

/-- Adds one of the two templates of generated code. -/
abbrev addFixed (session : Session) (tree : Files.Tree) (source : TemplateSource) (name : String) :
    Except Failure Unit × Session :=
  Engine.standard.addFixed session tree source name

/-- Renders a template with a catalog, without functions to call. -/
abbrev render (session : Session) (name : String) (catalog : Catalog) : Except Failure String :=
  Engine.standard.renderCatalog session .none name catalog

end Session

end UdsCatalog.Generation
