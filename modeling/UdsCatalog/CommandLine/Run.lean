import UdsCatalog.CommandLine.Arguments
import UdsCatalog.Settings.Loading

/-! A run of a program: from its arguments, the environment and the files to what it tells and writes. -/

namespace UdsCatalog.CommandLine

open Generation (Work outcome)

/-- What a run is made with: the formats of settings files, the keywords of schemas, the engine of templates,
and the moments at which it renders the two templates. A single template is rendered at the first of them. -/
structure Tools where
  formats : List Settings.Format
  validator : Schema.Validator
  engine : Generation.Engine
  first : engine.Moment
  second : engine.Moment

/-- The usual formats, the standard keywords, and libraries of templates without functions. -/
def Tools.standard : Tools := ⟨Settings.Format.standard, .standard, .standard, .none, .none⟩

/-- Why a run ends before its work is done. -/
inductive Trouble where
  | settings (refusal : Settings.Refusal)
  | work (failure : Failure)
  deriving Repr

/-- A trouble with all its causes on one line. -/
def Trouble.message : Trouble → String
  | .settings refusal => "loading configuration: " ++ refusal.message
  | .work failure => failure.fullMessage

/-- What a run tells. -/
structure Report where
  code : Nat
  output : String
  errors : String
  deriving DecidableEq, Repr

/-- The name of a program. -/
def Program.name : Program → String
  | .generate => "uds-def-gen"
  | .render => "uds-def-render"

/-- How a program is called. -/
def Program.usage (program : Program) : String :=
  let flagUsage (flag : Flag) : String :=
    let text := "--" ++ flag.long ++ " <" ++ flag.long ++ ">"
    if program.required.contains flag then text else "[" ++ text ++ "]"
  "Usage: " ++ " ".intercalate (program.name :: program.flags.map flagUsage) ++ "\n"

/-- The settings of a run: a flag goes over every source. A single template has its own directory for
output. -/
def Program.settings (program : Program) (given : Given) (settings : Settings) : Settings :=
  -- The flag for definitions belongs to both programs.
  let settings := match given.lookup .definitions with
    | some directory => settings.set .definitionDirectory directory
    | none => settings
  match program, given.lookup .output with
  | .generate, some directory => settings.set .outputDirectory directory
  -- The output flag of a single template is a path of its own and no setting.
  | _, _ => settings

/-- The path that a flag was given. -/
def Given.path (given : Given) (flag : Flag) : Files.Path := ⟨(given.lookup flag).getD ""⟩

/-- What a program generates from a catalog: the paths that it writes. -/
def Program.generation (program : Program) (tools : Tools) (given : Given) (settings : Settings)
    (catalog : Catalog) : Work (List Files.Path) := do
  match program with
  | .generate =>
    tools.engine.generatePair tools.first tools.second catalog settings.templateSource
      settings.output.directory
  | .render =>
    return [← tools.engine.generateFrom tools.first catalog (given.path .template) (given.path .output)
      settings.output.suffix]

/-- The work of a program. -/
def Program.work (program : Program) (tools : Tools) (given : Given) (settings : Settings) :
    Work (List Files.Path) := do
  -- Both programs load the catalog first, so they fail alike on bad definitions.
  let catalog ← outcome (settings.paths.loadCatalogWith tools.validator (← get))
  program.generation tools given settings catalog

/-- The paths at which the work of a program finds something, or puts something. -/
def Program.places (program : Program) (given : Given) (settings : Settings) : List Files.Path :=
  let paths := settings.paths
  -- Built-in schemas and templates are no files.
  let schemas := match paths.schemas with
    | .directory root =>
      [Record.Kind.services, .subFunctions, .layouts].map fun kind => root.join (Definition.schemaFile kind)
    | .builtIn => []
  let templates := [Generation.headerName, Generation.sourceName].map Files.Path.mk
  let (sources, directory, products) := match program with
    | .generate =>
      (match settings.templateSource with
        | .directory root => templates.map root.join
        | .builtIn => [],
        settings.output.directory,
        templates.map fun template => Generation.outputFileName template Generation.templateSuffix)
    -- The suffix comes from the settings only when a single template is rendered.
    | .render =>
      ([given.path .template], given.path .output,
        [Generation.outputFileName (given.path .template) settings.output.suffix])
  paths.files ++ schemas ++ sources ++ [directory] ++
    products.filterMap fun name => name.toOption.map fun name => directory.join name

/-- What a program tells about the paths that it has written. -/
def Program.success (program : Program) (paths : List Files.Path) : Report where
  code := 0
  output :=
    -- One line for each file, in the order in which they were written.
    String.join (paths.map fun path => "✅ " ++ path.text ++ "\n") ++
      match program with
      | .generate => "UDS definitions generated successfully.\n"
      | .render => ""
  errors := ""

/-- What a program tells about trouble. -/
def Trouble.report (trouble : Trouble) : Report := ⟨1, "", "Error: " ++ trouble.message ++ "\n"⟩

/-- Runs a program with flags that are right: what it tells, and the files behind it. -/
def Program.runWith (program : Program) (tools : Tools) (given : Given) (environment : Settings.Environment)
    (tree : Files.Tree) : Report × Files.Tree :=
  match Settings.loadWith tools.formats tree environment ((given.lookup .config).map Files.Path.mk) with
  -- Nothing has been written yet, so the tree is the one that was given.
  | .error refusal => ((Trouble.settings refusal).report, tree)
  | .ok settings =>
    match (program.work tools given (program.settings given settings)).run.run tree with
    | (.ok paths, after) => (program.success paths, after)
    -- What was written before the failure stays.
    | (.error failure, after) => ((Trouble.work failure).report, after)

/-- Runs a program with some tools. -/
def Program.runBy (program : Program) (tools : Tools) (arguments : List String)
    (environment : Settings.Environment) (tree : Files.Tree) : Report × Files.Tree :=
  match program.request arguments with
  | .run given => program.runWith tools given environment tree
  -- Help goes to the output and is a success, misuse goes to the errors.
  | .help => (⟨0, program.usage, ""⟩, tree)
  | .misuse => (⟨2, "", program.usage⟩, tree)

/-- Runs a program. -/
def Program.run (program : Program) : List String → Settings.Environment → Files.Tree → Report × Files.Tree :=
  program.runBy .standard

end UdsCatalog.CommandLine
