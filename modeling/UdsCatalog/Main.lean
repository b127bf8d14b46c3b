import UdsCatalog.CommandLine.Run

/-!
The programs on real files. The one that renders a single template runs when it is called by a name that
ends so; otherwise the pair of files is generated.
-/

namespace UdsCatalog.CommandLine

/-- The number that the operating system has for the attempt to read a directory. -/
def directoryCode : UInt32 := 21

/-- A directory and those above it, put into a tree. -/
def withDirectory (tree : Files.Tree) (path : Files.Path) : Files.Tree := (tree.makeDirectories path).2

/-- A file and the directories above it, put into a tree. -/
def withFile (tree : Files.Tree) (path : Files.Path) (bytes : List UInt8) : Files.Tree :=
  let tree := match path.parent? with
    | some parent => withDirectory tree parent
    | none => tree
  -- Files that are no texts stay bytes, so that reading them fails later as it should.
  let content := match Text.decodeBytes? bytes with
    | some text => Files.Content.text text
    | none => .bytes bytes
  match tree.write path content with
  | .ok tree => tree
  -- A path that the tree cannot hold is as good as absent.
  | .error _ => tree

/-- Looks at a path, and puts what is there into a tree. -/
def lookAt (tree : Files.Tree) (path : Files.Path) : IO Files.Tree := do
  try
    return withFile tree path (← IO.FS.readBinFile path.text).toList
  catch
    | .inappropriateType _ code _ =>
      -- This is how a directory shows. Every other error means that there is nothing to see.
      return if code == directoryCode then withDirectory tree path else tree
    | _ => return tree

/-- Looks at several paths. -/
def lookAtAll (tree : Files.Tree) (paths : List Files.Path) : IO Files.Tree := paths.foldlM lookAt tree

/-- The variables of the environment that have to do with settings. -/
def readVariables : IO Settings.Environment := do
  let names := ["HOME", "XDG_CONFIG_HOME"] ++ Settings.Key.all.map Settings.Key.variableName
  names.filterMapM fun name => do
    return (← IO.getEnv name).map fun value => (name, value)

/-- The files that a run may read or write, as they are. -/
def readFiles (program : Program) (arguments : List String) (environment : Settings.Environment) :
    IO Files.Tree := do
  match program.request arguments with
  | .run given =>
    let required := (given.lookup .config).map Files.Path.mk
    let current := Files.Path.mk (← IO.currentDir).toString
    let tree ← lookAtAll (.around current.components.reverse) (Settings.candidates environment required)
    match Settings.load tree environment required with
    -- Where to look next depends on the settings, which is why the files are read in two turns.
    | .ok settings => lookAtAll tree (program.places given (program.settings given settings))
    -- The run will stop at the same refusal, so no more files are needed.
    | .error _ => return tree
  | _ => return .empty

/-- Writes the files that a run has changed. -/
def writeFiles (before after : Files.Tree) : IO Unit := do
  for (path, content) in after.filesBeyond before do
    -- The tree has the directories already, but the disk may not.
    if let some parent := (Files.Path.mk path).parent? then
      if parent.text != "" then IO.FS.createDirAll parent.text
    match content with
    | .text text => IO.FS.writeFile path text
    | .bytes bytes => IO.FS.writeBinFile path ⟨bytes.toArray⟩

/-- The program that is called by a name. -/
def programOfName (name : String) : Program := if name.endsWith "render" then .render else .generate

end UdsCatalog.CommandLine

open UdsCatalog.CommandLine in
/-- Runs the program that is called. -/
def main (arguments : List String) : IO UInt32 := do
  let program := programOfName (← IO.appPath).toString
  let environment ← readVariables
  let before ← readFiles program arguments environment
  let (report, after) := program.run arguments environment before
  writeFiles before after
  (← IO.getStdout).putStr report.output
  (← IO.getStderr).putStr report.errors
  return report.code.toUInt32
