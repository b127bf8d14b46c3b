import UdsCatalog.Generation.Session
import UdsCatalog.Text.Utf8

/-!
Generated files. The pair of declarations and definitions goes to a directory that is made if it is
missing; a single template gives a file of its own name without the suffix.
-/

namespace UdsCatalog.Generation

/-- Work on a tree of files. What was written stays when a later step fails. -/
abbrev Work (α : Type) := ExceptT Failure (StateM Files.Tree) α

/-- The suffix of template files. -/
def templateSuffix : String := ".template"

/-- A text in front of a suffix; none when the text does not end with it or nothing stands in front. -/
def stem? (suffix text : String) : Option String :=
  let chars := text.toList
  let tail := suffix.toList
  -- A name that is only the suffix has no stem, since the file needs a name.
  if tail.isSuffixOf chars && tail.length < chars.length then
    some (String.ofList (chars.take (chars.length - tail.length)))
  else none

/-- The file name for what a template gives: the name of the template without the suffix. -/
def stemOrRefuse (path : String) (fileName : Option String) (suffix : String) :
    Except Failure String :=
  match fileName.bind (stem? suffix) with
  | some stem => .ok stem
  | none => .error (.templateName path suffix)

/-- The file name for what the template at a path gives. -/
def outputFileName (template : Files.Path) (suffix : String) : Except Failure String :=
  stemOrRefuse template.text template.fileName? suffix

/-- The same for a path of bytes, whose last name must be a text. -/
def outputFileNameOfBytes (template : List UInt8) (suffix : String) : Except Failure String :=
  stemOrRefuse (Text.showBytes template)
    ((Files.lastName? 0x2F 0x2E template).bind Text.decodeBytes?) suffix

/-- Takes the outcome of a step that leaves the files alone. -/
def outcome {α : Type} (result : Except Failure α) : Work α :=
  match result with
  | .ok a => pure a
  | .error failure => throw failure

/-- Writes a file. -/
def writeFile (path : Files.Path) (text : String) : Work Unit := do
  -- A fault leaves the tree as it was.
  match (← get).write path (.text text) with
  | .ok tree => set tree
  | .error fault => throw (.files fault)

/-- Makes a directory and those above it. -/
def makeDirectories (path : Files.Path) : Work Unit := do
  let (result, tree) := (← get).makeDirectories path
  -- The directories that could be made stay even if one below them could not.
  set tree
  match result with
  | .ok () => pure ()
  | .error fault => throw (.files fault)

namespace Engine

variable (engine : Engine)

/-- Adds one of the two templates, renders it and writes the result. -/
def generateOne (moment : engine.Moment) (catalog : Catalog) (source : TemplateSource)
    (directory : Files.Path) (session : engine.Library) (name : String) :
    Work (Files.Path × engine.Library) := do
  -- The session is kept apart from the outcome, because adding changes it also when it fails.
  let (added, session) := engine.addFixed session (← get) source name
  outcome added
  let text ← outcome (engine.renderCatalog session moment name catalog)
  let output := directory.join (← outcome (outputFileName ⟨name⟩ templateSuffix))
  -- Nothing is written before the template has been rendered to its end.
  writeFile output text
  return (output, session)

/-- Writes the declarations, then the definitions, and tells where. Each is rendered at a moment of its own. -/
def generatePair (first second : engine.Moment) (catalog : Catalog) (source : TemplateSource)
    (directory : Files.Path) : Work (List Files.Path) := do
  makeDirectories directory
  -- The header is written before the second template is even read.
  let (header, session) ← engine.generateOne first catalog source directory engine.empty headerName
  -- The session goes on, so this template may include the first one.
  let (implementation, _) ← engine.generateOne second catalog source directory session sourceName
  return [header, implementation]

/-- Renders one template file into a directory that exists, and tells where. -/
def generateFrom (moment : engine.Moment) (catalog : Catalog) (template directory : Files.Path)
    (suffix : String) : Work Files.Path := do
  -- Unlike the pair, a single template does not make its directory.
  if !(← get).isDirectory directory then throw (.missing .outputDirectory directory)
  -- The name of the output is settled before the template is read.
  let fileName ← outcome (outputFileName template suffix)
  let (added, session) := engine.addFile engine.empty (← get) template.text template
  outcome added
  let text ← outcome (engine.renderCatalog session moment template.text catalog)
  let output := directory.join fileName
  writeFile output text
  return output

end Engine

/-- Adds one of the two templates, renders it without functions and writes the result. -/
abbrev generateOne (catalog : Catalog) (source : TemplateSource) (directory : Files.Path)
    (session : Session) (name : String) : Work (Files.Path × Session) :=
  Engine.standard.generateOne .none catalog source directory session name

/-- Writes the declarations, then the definitions, rendered without functions, and tells where. -/
abbrev generatePair (catalog : Catalog) (source : TemplateSource) (directory : Files.Path) :
    Work (List Files.Path) :=
  Engine.standard.generatePair .none .none catalog source directory

/-- Renders one template file without functions into a directory that exists, and tells where. -/
abbrev generateFrom (catalog : Catalog) (template directory : Files.Path) (suffix : String) :
    Work Files.Path :=
  Engine.standard.generateFrom .none catalog template directory suffix

end UdsCatalog.Generation
