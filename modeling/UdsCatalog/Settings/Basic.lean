import UdsCatalog.Definition.Loading
import UdsCatalog.Generation.Output

/-!
Settings: where the definition files and templates are, and where generated files go. Each setting is
a text under a name in one of two groups.
-/

namespace UdsCatalog

/-- The settings of definition files. -/
structure DefinitionSettings where
  /-- The directory from which the paths of the files are read. -/
  directory : Files.Path := "definitions"
  services : Files.Path := Definition.defaultFile .services
  subFunctions : Files.Path := Definition.defaultFile .subFunctions
  layouts : Files.Path := Definition.defaultFile .layouts
  /-- A directory of schemas in place of the built-in ones. -/
  schemas : Option Files.Path := none
  deriving DecidableEq, Repr

/-- The settings of generated files. -/
structure OutputSettings where
  directory : Files.Path := "output"
  /-- A directory of templates in place of the built-in ones. -/
  templates : Option Files.Path := none
  /-- The end of the names of template files. -/
  suffix : String := Generation.templateSuffix
  deriving DecidableEq, Repr

/-- The settings of the program. -/
structure Settings where
  definitions : DefinitionSettings := {}
  output : OutputSettings := {}
  deriving DecidableEq, Repr

namespace Settings

instance : Inhabited Settings := ⟨{}⟩

/-- A group of settings. -/
inductive Group where
  | definitions
  | output
  deriving DecidableEq, Repr

/-- The name of a group. -/
def Group.name : Group → String
  | .definitions => "definitions"
  | .output => "output"

/-- What a group is, as messages name it. -/
def Group.description : Group → String
  | .definitions => "struct DefinitionsConfig"
  | .output => "struct OutputConfig"

/-- One setting. -/
inductive Key where
  | definitionDirectory
  | services
  | subFunctions
  | layouts
  | schemas
  | outputDirectory
  | templates
  | suffix
  deriving DecidableEq, Repr

namespace Key

/-- All settings, those of one group together. -/
def all : List Key :=
  [definitionDirectory, services, subFunctions, layouts, schemas, outputDirectory, templates, suffix]

/-- The group that a setting is in. -/
def group : Key → Group
  | outputDirectory | templates | suffix => .output
  | _ => .definitions

/-- The name of a setting in its group. -/
def name : Key → String
  | definitionDirectory | outputDirectory => "dir"
  | services => "services"
  | subFunctions => "service_subs"
  | layouts => "req_resp"
  | schemas => "schema_dir"
  | templates => "template_dir"
  | suffix => "template_suffix"

/-- A setting that may be left without a value. -/
def isOptional (key : Key) : Bool := key == schemas || key == templates

end Key

/-- The settings of a group. -/
def Group.keys (group : Group) : List Key := Key.all.filter fun key => key.group == group

/-- The value of a setting. -/
def get (settings : Settings) : Key → Option String
  | .definitionDirectory => some settings.definitions.directory.text
  | .services => some settings.definitions.services.text
  | .subFunctions => some settings.definitions.subFunctions.text
  | .layouts => some settings.definitions.layouts.text
  | .schemas => settings.definitions.schemas.map Files.Path.text
  | .outputDirectory => some settings.output.directory.text
  | .templates => settings.output.templates.map Files.Path.text
  | .suffix => some settings.output.suffix

/-- Gives a setting a value. -/
def set (settings : Settings) (key : Key) (value : String) : Settings :=
  match key with
  | .definitionDirectory => { settings with definitions.directory := ⟨value⟩ }
  | .services => { settings with definitions.services := ⟨value⟩ }
  | .subFunctions => { settings with definitions.subFunctions := ⟨value⟩ }
  | .layouts => { settings with definitions.layouts := ⟨value⟩ }
  | .schemas => { settings with definitions.schemas := some ⟨value⟩ }
  | .outputDirectory => { settings with output.directory := ⟨value⟩ }
  | .templates => { settings with output.templates := some ⟨value⟩ }
  | .suffix => { settings with output.suffix := value }

/-- A setting that was given a value has it. -/
theorem get_set_self (settings : Settings) (key : Key) (value : String) :
    (settings.set key value).get key = some value := by
  cases key <;> rfl

/-- All other settings keep their values. -/
theorem get_set_other (settings : Settings) {key other : Key} (value : String) (apart : other ≠ key) :
    (settings.set key value).get other = settings.get other := by
  cases key <;> cases other <;> simp_all [set, get]

/-- Where the definition files are. -/
def paths (settings : Settings) : Definition.Paths where
  -- The join leaves a path from the root as it is, so such a file may lie outside of the directory.
  services := settings.definitions.directory.join settings.definitions.services
  subFunctions := settings.definitions.directory.join settings.definitions.subFunctions
  layouts := settings.definitions.directory.join settings.definitions.layouts
  schemas := match settings.definitions.schemas with
    | some directory => .directory directory
    | none => .builtIn

/-- Where the templates are. -/
def templateSource (settings : Settings) : Generation.TemplateSource :=
  match settings.output.templates with
  | some directory => .directory directory
  | none => .builtIn

/-- Two values of a setting mean the same: paths by their components, and the suffix by its letters. -/
def Key.agree (key : Key) : Option String → Option String → Bool
  | none, none => true
  | some a, some b => if key == .suffix then a == b else Files.Path.agrees ⟨a⟩ ⟨b⟩
  | _, _ => false

/-- Settings that mean the same. -/
def agrees (a b : Settings) : Bool := Key.all.all fun key => key.agree (a.get key) (b.get key)

end Settings

end UdsCatalog
