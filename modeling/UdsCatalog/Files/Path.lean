/-! Paths as they are written: joined without being normalised, and read component by component. -/

namespace UdsCatalog.Files

/-- A path as it is written. -/
structure Path where
  text : String
  deriving DecidableEq, Repr, Inhabited

/-- The parts of a text between slashes; a text of n slashes has n + 1 parts. -/
def splitAt {α : Type} [BEq α] (mark : α) : List α → List (List α)
  -- Even an empty text has one part, so the match below never meets an empty list.
  | [] => [[]]
  | a :: rest =>
    if a == mark then [] :: splitAt mark rest
    else
      match splitAt mark rest with
      | [] => [[a]]
      | part :: parts => (a :: part) :: parts

namespace Path

instance : Coe String Path := ⟨Path.mk⟩

/-- A path that starts at the root. -/
def isAbsolute (path : Path) : Bool := path.text.toList.head? == some '/'

/-- The part of a path, read from the directory of another. An absolute part stands alone. -/
def join (base part : Path) : Path :=
  if part.isAbsolute then part
  else
    -- An empty base adds no slash, which would turn the part into a path from the root.
    match base.text.toList.getLast? with
    | none => part
    | some last => ⟨if last == '/' then base.text ++ part.text else base.text ++ "/" ++ part.text⟩

/-- The parts between slashes, empty ones included. -/
def parts (path : Path) : List String := (splitAt '/' path.text.toList).map String.ofList

/-- The components: neither empty parts nor, behind the first part, dots count. -/
def components (path : Path) : List String :=
  match path.parts with
  | [] => []
  | first :: rest =>
    -- A dot in front is kept, since it is the only one that a path may need.
    let rest := rest.filter fun part => part != "" && part != "."
    -- A path from the root begins with an empty part, which is no component.
    if first == "" then rest else first :: rest

/-- Paths of the same components are the same place. -/
def agrees (a b : Path) : Bool := a.isAbsolute == b.isAbsolute && a.components == b.components

/-- The path without its last component; none when there is no component to leave. -/
def parent? (path : Path) : Option Path :=
  match path.components with
  | [] => none
  -- Slashes and dots behind the last component go with it.
  | components =>
    some ⟨(if path.isAbsolute then "/" else "") ++ "/".intercalate components.dropLast⟩

end Path

/-- The name at the end of a path, which is a sequence of characters or of bytes. Slashes and single
dots behind the name do not count; a path that ends in two dots, or has no name, gives none. -/
def lastName? {α : Type} [BEq α] (slash dot : α) (path : List α) : Option (List α) :=
  let parts := splitAt slash path
  -- As among components, a single dot counts in front only.
  let named :=
    (parts.take 1).filter (fun part => !part.isEmpty) ++
      (parts.drop 1).filter fun part => !part.isEmpty && part != [dot]
  match named.getLast? with
  | none => none
  -- Dots lead somewhere, but they are no name that a file could have there.
  | some name => if name == [dot] || name == [dot, dot] then none else some name

/-- The name at the end of a path. -/
def Path.fileName? (path : Path) : Option String :=
  (lastName? '/' '.' path.text.toList).map String.ofList

end UdsCatalog.Files
