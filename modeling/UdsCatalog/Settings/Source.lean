import UdsCatalog.Settings.Format
import UdsCatalog.Settings.Way

/-!
The sources of settings, from the weakest to the strongest: files in usual places, a file of the user,
a file that is asked for, and variables of the environment.
-/

namespace UdsCatalog.Settings

/-- The variables of the environment. -/
abbrev Environment := Named String

/-- The name of settings files in usual places. -/
def fileName : String := "udsgen" ++ fileSuffix

/-- The usual places of settings files. -/
def usualFiles : List Files.Path := [⟨fileName⟩, ⟨"." ++ fileName⟩, ⟨"config/" ++ fileName⟩]

/-- A variable that is there and not empty. -/
def filledVariable? (environment : Environment) (name : String) : Option String :=
  (environment.lookup name).filter (· != "")

/-- The directory of the settings of the user's programs. -/
def userDirectory? (environment : Environment) : Option Files.Path :=
  -- A relative directory in this variable counts as none at all.
  match (filledVariable? environment "XDG_CONFIG_HOME").filter fun text => (Files.Path.mk text).isAbsolute with
  | some text => some ⟨text⟩
  | none => (filledVariable? environment "HOME").map fun home => (Files.Path.mk home).join ".config"

/-- The settings file of the user. -/
def userFile? (environment : Environment) : Option Files.Path :=
  (userDirectory? environment).map fun directory => (directory.join "udsgen").join fileName

/-- What is left of two ways behind the steps that both begin with. -/
def behindCommon : List String → List String → List String × List String
  | a :: as, b :: bs => if a == b then behindCommon as bs else (a :: as, b :: bs)
  | as, bs => (as, bs)

/-- A path as messages name it: from the current directory, without needless slashes and dots. -/
def shownPath (tree : Files.Tree) (path : Files.Path) : Files.Path :=
  let current := tree.current.reverse
  let names := (if path.isAbsolute then [] else current) ++ path.components.filter (· != ".")
  -- From the current directory the way goes up to where both part, and down from there.
  let (up, down) := behindCommon current names
  ⟨"/".intercalate (up.map (fun _ => "..") ++ down)⟩

/-- The path with a suffix behind its last name. -/
def withSuffix? (path : Files.Path) (suffix : String) : Option Files.Path := do
  -- The suffix goes behind the whole name, even where this has another suffix already.
  let name ← path.fileName?
  return (← path.parent?).join ⟨name ++ suffix⟩

/-- The paths with the suffixes of formats behind the last name, each with its format. -/
def suffixed (formats : List Format) (path : Files.Path) : List (Files.Path × Format) :=
  formats.flatMap fun format =>
    (format.suffixes.filterMap (withSuffix? path)).map fun file => (file, format)

/-- Finds the file that a path stands for, and its format: the file itself, or else the first one with a
suffix behind its name. -/
def locate (formats : List Format) (tree : Files.Tree) (path : Files.Path) :
    Except Refusal (Files.Path × Format) :=
  if tree.isFile path then
    -- A file that is there is not passed over for one with a suffix.
    match formats.find? (·.isFor path) with
    | some format => .ok (path, format)
    | none => .error (.unknownFormat path)
  else
    match (suffixed formats path).find? fun (file, _) => tree.isFile file with
    | some found => .ok found
    | none => .error (.notFound path)

/-- What the names of settings files may end with, whichever formats are read. -/
def fileSuffixes : List String := [fileSuffix, ".json", ".yaml", ".yml", ".ini", ".ron", ".json5"]

/-- The paths at which a settings file may stand. -/
def candidates (environment : Environment) (required : Option Files.Path) : List Files.Path :=
  let named := usualFiles ++ (userFile? environment).toList ++ required.toList
  named ++ named.flatMap fun path => fileSuffixes.filterMap (withSuffix? path)

/-- Finds the file that a path stands for, its format and its text. -/
def fetch (formats : List Format) (tree : Files.Tree) (path : Files.Path) :
    Except Refusal (Files.Path × Format × String) := do
  let (found, format) ← locate formats tree path
  match tree.readText found with
  | .ok text => return (found, format, text)
  | .error fault => .error (.notRead fault)

/-- The values of a document, which is the text of a file. -/
def Format.values (format : Format) (tree : Files.Tree) (file : Files.Path) (text : String) :
    Except Refusal (Named Value) :=
  match format.read (shownPath tree file) text with
  | some values => .ok values
  | none => .error (.unreadable (shownPath tree file))

/-- The values of a file that need not be there. A file without a text counts as none. -/
def readOptional (formats : List Format) (tree : Files.Tree) (path : Files.Path) :
    Except Refusal (Named Value) :=
  match fetch formats tree path with
  -- A file that was found and is malformed is an error, though it need not be there.
  | .ok (found, format, text) => format.values tree found text
  | .error _ => .ok []

/-- The values of a file that must be there. -/
def readRequired (formats : List Format) (tree : Files.Tree) (path : Files.Path) :
    Except Refusal (Named Value) := do
  let (found, format, text) ← fetch formats tree path
  format.values tree found text

/-- The values of the user's file. Only what stands at its very place counts. -/
def readUserFile (formats : List Format) (tree : Files.Tree) (environment : Environment) :
    Except Refusal (Named Value) :=
  match (userFile? environment).filter fun path => tree.isFile path || tree.isDirectory path with
  | some path => readOptional formats tree path
  | none => .ok []

/-- What the names of variables for settings start with. -/
def variablePrefix : List Char := ['u', 'd', 's', 'g', 'e', 'n', '_', '_']

/-- Pairs of underscores stand for dots. -/
def dotted : List Char → List Char
  -- Of three underscores the first two are the dot, since the text is read from the left.
  | '_' :: '_' :: rest => '.' :: dotted rest
  | c :: rest => c :: dotted rest
  | [] => []

/-- The way that a variable sets, if it is one for settings. Letters of any size are the same. -/
def wayOfVariable? (name : String) : Option String :=
  -- The prefix ends in a pair of underscores, which is not made a dot.
  (Text.past? variablePrefix (Text.toSmall name).toList).map fun rest => String.ofList (dotted rest)

/-- The value of a variable: a truth value, an integer or another number, if its text is one. -/
def valueOfVariable (text : String) : Value :=
  let small := Text.toSmall text
  if small == "true" then .bool true
  else if small == "false" then .bool false
  else
    -- Integers are tried first: every one of them would be a number with a point too.
    match Numeral.readInt64? text.toList, FloatingPoint.ofText? text with
    | some number, _ => .int number
    | none, some number => .float number
    | none, none => .text text

/-- The name of the variable for a setting. -/
def Key.variableName (key : Key) : String :=
  Text.toCapitals (String.ofList variablePrefix ++ key.group.name ++ "__" ++ key.name)

/-- The values of the environment. -/
def readEnvironment (environment : Environment) : Named Value :=
  environment.filterMap fun (name, text) =>
    (wayOfVariable? name).map fun way => (way, valueOfVariable text)

/-- The values of all sources, the weakest first. The first source that cannot be read is named. -/
def layers (formats : List Format) (tree : Files.Tree) (environment : Environment)
    (required : Option Files.Path) : Except Refusal (List (Named Value)) := do
  -- The order of reading decides which of several malformed files is reported.
  let usual ← usualFiles.mapM (readOptional formats tree)
  let user ← readUserFile formats tree environment
  let asked ← match required with
    | some path => readRequired formats tree path
    | none => .ok []
  -- A later layer goes over an earlier one, so the environment stands last.
  return usual ++ [user, asked, readEnvironment environment]

end UdsCatalog.Settings
