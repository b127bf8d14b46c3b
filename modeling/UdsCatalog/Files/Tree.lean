import UdsCatalog.Files.Path

/-!
A tree of directories and files. Absolute paths are followed from its root, and all others from the
current directory, which stands somewhere in the tree.
-/

namespace UdsCatalog.Files

/-- What a file holds: a text, or bytes that are no text. -/
inductive Content where
  | text (text : String)
  | bytes (bytes : List UInt8)
  deriving DecidableEq, Repr

/-- What stands at a place of the tree. -/
inductive Entry where
  | directory
  | file (content : Content)
  deriving DecidableEq, Repr

/-- Why an operation on files fails. -/
inductive Fault where
  | notFound
  | alreadyExists
  | notDirectory
  | isDirectory
  | nameTooLong
  | zeroByte
  | notText
  deriving DecidableEq, Repr

/-- The wording of a fault. -/
def Fault.message : Fault → String
  | .notFound => "No such file or directory (os error 2)"
  | .alreadyExists => "File exists (os error 17)"
  | .notDirectory => "Not a directory (os error 20)"
  | .isDirectory => "Is a directory (os error 21)"
  | .nameTooLong => "File name too long (os error 36)"
  | .zeroByte => "file name contained an unexpected NUL byte"
  | .notText => "stream did not contain valid UTF-8"

/-- A place of the tree: the names on the way to it, the innermost first. -/
abbrev Place := List String

/-- The places that hold something, and the place of the current directory. -/
structure Tree where
  entries : List (Place × Entry)
  current : Place := []
  deriving DecidableEq, Repr

namespace Tree

/-- The tree of an empty current directory and those around it. -/
def around (current : Place) : Tree := ⟨[], current⟩

/-- The tree of an empty directory. -/
def empty : Tree := around ["work"]

/-- What stands at a place. -/
def entry? (tree : Tree) (place : Place) : Option Entry :=
  -- The current directory and those around it, up to the root, need no entries.
  if place <:+ tree.current then some .directory else tree.entries.lookup place

/-- Puts an entry at a place, over what stood there. -/
def put (tree : Tree) (place : Place) (entry : Entry) : Tree :=
  -- The old entry is taken out, so every place is listed once.
  { tree with entries := (place, entry) :: tree.entries.filter fun (other, _) => other != place }

/-- Names longer than this many bytes do not exist. -/
def longestName : Nat := 255

/-- Goes one step from a place. -/
def descend (tree : Tree) (place : Place) (part : String) : Except Fault Place :=
  match tree.entry? place with
  | none => .error .notFound
  | some (.file _) => .error .notDirectory
  | some .directory =>
    -- Empty parts come from repeated slashes, and like a dot they stay where they are.
    if part == "" || part == "." then .ok place
    else if part == ".." then
      -- From the root there is no way up, and the step stays.
      .ok place.tail
    -- The length counts in bytes, and it is checked before anyone asks whether the name exists.
    else if part.utf8ByteSize > longestName then .error .nameTooLong
    -- The name need not exist yet: only going on from it asks for that.
    else .ok (part :: place)

/-- Goes several steps from a place. -/
def descendAll (tree : Tree) : Place → List String → Except Fault Place
  | place, [] => .ok place
  | place, part :: rest =>
    match tree.descend place part with
    | .ok next => tree.descendAll next rest
    | .error fault => .error fault

/-- A path that can name something at all. -/
def admissible (path : Path) : Except Fault Unit :=
  -- A zero byte is noticed before the path is looked up.
  if path.text.toList.any (·.toNat == 0) then .error .zeroByte
  else if path.text == "" then .error .notFound
  else .ok ()

/-- Where a path begins. -/
def start (tree : Tree) (path : Path) : Place := if path.isAbsolute then [] else tree.current

/-- Follows a path to what stands at its end. -/
def find (tree : Tree) (path : Path) : Except Fault (Place × Entry) := do
  admissible path
  -- All parts count here, so a slash behind the name of a file asks for a directory.
  let place ← tree.descendAll (tree.start path) path.parts
  match tree.entry? place with
  | some entry => .ok (place, entry)
  | none => .error .notFound

/-- A path that leads to a file. -/
def isFile (tree : Tree) (path : Path) : Bool :=
  match tree.find path with
  | .ok (_, .file _) => true
  | _ => false

/-- A path that leads to a directory. -/
def isDirectory (tree : Tree) (path : Path) : Bool :=
  match tree.find path with
  | .ok (_, .directory) => true
  | _ => false

/-- The text of a file. -/
def readText (tree : Tree) (path : Path) : Except Fault String := do
  match ← tree.find path with
  | (_, .directory) => .error .isDirectory
  | (_, .file (.bytes _)) => .error .notText
  | (_, .file (.text text)) => .ok text

/-- Where a path leads, apart from its last name: the place of the directory and the name. The name
is none when the path ends in dots. The flag tells of slashes behind the name. -/
def findLast (tree : Tree) (path : Path) : Except Fault (Place × Option String × Bool) := do
  admissible path
  let parts := path.parts.filter (· != "")
  -- What slashes behind the name mean is left to the caller: directories allow them.
  let slashes := path.parts.getLast? == some ""
  let place ← tree.descendAll (tree.start path) parts.dropLast
  match parts.getLast? with
  | none => .ok (place, none, slashes)
  | some name =>
    -- The step checks the directory and the length of the name, but its end may be missing.
    let _ ← tree.descend place name
    .ok (place, if name == "." || name == ".." then none else some name, slashes)

/-- Makes one directory. -/
def makeDirectory (tree : Tree) (path : Path) : Except Fault Tree := do
  match ← tree.findLast path with
  | (_, none, _) => .error .alreadyExists
  | (place, some name, _) =>
    -- Whatever stands there is in the way, a file as well as a directory.
    match tree.entry? (name :: place) with
    | some _ => .error .alreadyExists
    | none => .ok (tree.put (name :: place) .directory)

/-- Writes a file: a new one, or over one that exists. -/
def write (tree : Tree) (path : Path) (content : Content) : Except Fault Tree := do
  match ← tree.findLast path with
  | (_, none, _) => .error .isDirectory
  -- A slash behind the name asks for a directory, which is no place for a text.
  | (_, some _, true) => .error .isDirectory
  | (place, some name, false) =>
    match tree.entry? (name :: place) with
    | some .directory => .error .isDirectory
    | _ => .ok (tree.put (name :: place) (.file content))

/-- Makes a directory and those above it that are missing. What was made stays when a later step
fails. The argument bounds the number of directories above. -/
def makeDirectoriesWithin : Nat → Tree → Path → Except Fault Unit × Tree
  | 0, tree, _ => (.error .notFound, tree)
  | room + 1, tree, path =>
    -- The empty path stands for the current directory, which is always there.
    if path.text == "" then (.ok (), tree)
    else
      match tree.makeDirectory path with
      | .ok made => (.ok (), made)
      -- Only a missing parent is a reason to go up one directory.
      | .error .notFound =>
        match path.parent? with
        | none => (.error .notFound, tree)
        | some parent =>
          match makeDirectoriesWithin room tree parent with
          | (.error fault, tree) => (.error fault, tree)
          | (.ok (), tree) =>
            -- Now that the parent is there, the directory itself is tried once more.
            match tree.makeDirectory path with
            | .ok made => (.ok (), made)
            | .error fault => (if tree.isDirectory path then .ok () else .error fault, tree)
      -- A directory that is already there is as good as one that was made.
      | .error fault => (if tree.isDirectory path then .ok () else .error fault, tree)

/-- Makes a directory and those above it that are missing. -/
def makeDirectories (tree : Tree) (path : Path) : Except Fault Unit × Tree :=
  -- Every level up drops a component, so this many levels are enough.
  makeDirectoriesWithin (path.components.length + 1) tree path

/-- A place as a path: from the current directory when it is inside of it, and from the root otherwise. -/
def placeText (tree : Tree) (place : Place) : String :=
  let names := place.reverse
  if tree.current <:+ place then "/".intercalate (names.drop tree.current.length)
  else "/" ++ "/".intercalate names

/-- The files that one tree holds and another does not hold in the same way. -/
def filesBeyond (tree before : Tree) : List (String × Content) :=
  tree.entries.filterMap fun (place, entry) =>
    match entry with
    | .directory => none
    | .file content =>
      -- A file that was rewritten with the same content does not count.
      if before.entry? place == some (.file content) then none else some (tree.placeText place, content)

end Tree

end UdsCatalog.Files
