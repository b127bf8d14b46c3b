import UdsCatalog.Template.Rendering

/-!
Libraries of templates. A template can include others, and it can extend another one, whose blocks it
replaces. What a template inherits is settled when templates are added, not when they are rendered.
-/

namespace UdsCatalog.Template

/-- In which template rendering failed. -/
inductive Place where
  /-- In the template that was asked for. -/
  | here
  | other (name : String)
  /-- In a block that the template that was asked for does not define. -/
  | parent
  deriving DecidableEq, Repr

/-- What messages tell of a place. -/
def Place.message : Place → String
  | .here => ""
  | .other name => " (error happened in '" ++ name ++ "')."
  | .parent => " (error happened in a parent template)"

/-- Why templates cannot be added or rendered. -/
inductive Failure where
  /-- The text is no template; where it comes from is told as it stands in messages. -/
  | unparsable (source : String)
  /-- The file holds no text. -/
  | unreadable (path : String)
  | unknown (name : String)
  | unknownParent (name parent : String)
  | circular (name : String) (chain : List String)
  | rendering (name : String) (place : Place) (trouble : Trouble)
  /-- What another kind of templates tells in its own words, with the causes. -/
  | told (message : String) (causes : List String)
  deriving Repr

/-- The wording of a failure, without its causes. -/
def Failure.message : Failure → String
  | .unparsable source => "Failed to parse " ++ source
  | .unreadable path => "Failed to read template '" ++ Text.quotedPath path ++ "'"
  | .unknown name => "Template '" ++ name ++ "' not found"
  | .unknownParent name parent =>
    "Template '" ++ name ++ "' is inheriting from '" ++ parent ++
      "', which doesn't exist or isn't loaded."
  | .circular name chain =>
    "Circular extend detected for template '" ++ name ++ "'. Inheritance chain: \x60[" ++
      ", ".intercalate (chain.map Text.quoted) ++ "]\x60"
  | .rendering name place _ => "Failed to render '" ++ name ++ "'" ++ place.message
  | .told message _ => message

/-- The wordings of the causes of a failure, outermost first. -/
def Failure.causes : Failure → List String
  | .unreadable _ => ["stream did not contain valid UTF-8"]
  | .rendering _ _ trouble => trouble.chain
  | .told _ causes => causes
  | _ => []

/-- A template in a library, with what it inherits: its parents, the nearest first, and for each of
its own blocks the templates of its line that define it. -/
structure Entry where
  template : Tree
  parents : List String
  blocks : List (String × List (String × List Node))
  deriving Repr

/-- Templates by name. -/
structure Library where
  entries : List (String × Entry)
  deriving Repr

namespace Library

/-- A library without templates. -/
def empty : Library := ⟨[]⟩

/-- The template of a name. -/
def find? (library : Library) (name : String) : Option Entry := library.entries.lookup name

/-- Follows the line of parents from a template. The number bounds how long the line is. -/
def line (library : Library) (start : String) :
    Nat → Tree → List String → Except Failure (List String)
  | 0, _, parents => .error (.circular start parents)
  | room + 1, template, parents =>
    -- Coming back to the start is a circle. A circle further up is found by the bound.
    if !parents.isEmpty && start == template.name then .error (.circular start parents)
    else
      match template.parent with
      | none => .ok parents
      | some parent =>
        match library.find? parent with
        | none => .error (.unknownParent template.name parent)
        | some entry => library.line start room entry.template (parents ++ [parent])

/-- For each block of a template, where its line defines it. -/
def definitionsAlong (library : Library) (template : Tree) (parents : List String) :
    List (String × List (String × List Node)) :=
  template.blocks.map fun (name, body) =>
    -- The template itself stands in front, then its parents, the nearest first.
    (name, (template.name, body) :: parents.filterMap fun parent =>
      (library.find? parent).bind fun entry =>
        (entry.template.blocks.lookup name).map fun body => (parent, body))

/-- A template neither extends another one nor defines blocks. -/
def isSimple (template : Tree) : Bool := template.parent.isNone && template.blocks.isEmpty

/-- An entry with what its template inherits. -/
def settleEntry (library : Library) (entry : Entry) : Except Failure Entry :=
  -- A template that inherits nothing keeps its empty lists.
  if isSimple entry.template then .ok entry
  else do
    let parents ← library.line entry.template.name (library.entries.length + 2) entry.template []
    return { entry with parents, blocks := library.definitionsAlong entry.template parents }

/-- Settles the entries one after the other. -/
def settleEntries (library : Library) : List (String × Entry) → Except Failure (List (String × Entry))
  | [] => .ok []
  | (name, entry) :: rest => do
    -- Each entry is settled against the library as it was, so their order does not matter.
    let settled ← library.settleEntry entry
    return (name, settled) :: (← library.settleEntries rest)

/-- Settles what every template inherits. If one of them cannot, nothing changes. -/
def settle (library : Library) : Except Failure Library :=
  (library.settleEntries library.entries).map Library.mk

/-- Adds a template from text, in place of one of the same name. The source is named in the message
when the text is no template; then nothing changes. A template whose parent is missing stays. -/
def add (library : Library) (name source text : String) : Except Failure Unit × Library :=
  match Tree.ofText? name text with
  | none => (.error (.unparsable source), library)
  | some template =>
    let entry : Entry := ⟨template, [], []⟩
    let added : Library :=
      -- A replaced template goes to the end, as a new one does.
      ⟨library.entries.filter (fun (other, _) => other != name) ++ [(name, entry)]⟩
    match added.settle with
    | .ok settled => (.ok (), settled)
    -- It may be found wrong because of another template, and yet it has been added.
    | .error failure => (.error failure, added)

/-- The body of a block along a line, and the level at which it was found. -/
def bodyAlong (library : Library) (block : String) : Nat → List String → Option (List Node × Nat)
  | _, [] => none
  | level, name :: rest =>
    match (library.find? name).bind (fun entry => entry.blocks.lookup block) with
    -- The first definition of an entry is its own.
    | some ((_, body) :: _) => some (body, level)
    | _ => library.bodyAlong block (level + 1) rest

/-- Templates are included and blocks begun at most this deep. -/
def deepest : Nat := 1000

/-- The surroundings of the templates of a library, for so many levels of inclusion. -/
def surroundings (library : Library) : Nat → Surroundings
  -- Every name is there on the deepest level, so that inclusion fails with the right trouble.
  | 0 => ⟨fun _ => some (throw .tooDeep), fun _ _ => throw .tooDeep⟩
  | room + 1 =>
    { include? := fun name =>
        (library.find? name).map fun entry => do
          -- The included template sees the names around it, but sets its own ones.
          setFrames (⟨name, [], none⟩ :: (← get).frames)
          renderAll (library.surroundings room) entry.template.nodes
          setFrames ((← get).frames.drop 1)
      block := fun name standing => do
        -- Blocks are those of the template that is rendered, wherever they stand.
        let active := (← get).template
        let parents := ((library.find? active).map Entry.parents).getD []
        match library.bodyAlong name 0 (active :: parents) with
        | some (body, level) =>
          modify fun scene => { scene with lastBlock := some (name, level) }
          renderAll (library.surroundings room) body
        -- A block inside of a choice may be in no list, and is then rendered as it stands.
        | none => standing }

/-- Where rendering failed. The block that was begun last decides, also when it has ended. -/
def placeOfError (entry : Entry) (lastBlock : Option (String × Nat)) : Place :=
  match lastBlock with
  | some (block, level) =>
    match (entry.blocks.lookup block).bind (fun definitions => definitions[level]?) with
    | some (name, _) => if name == entry.template.name then .here else .other name
    -- The template that was asked for does not define the block.
    | none => .parent
  | none =>
    match entry.parents.getLast? with
    | some name => .other name
    | none => .here

/-- Renders a template with the given values and functions. The line of parents begins with its last one. -/
def renderWith (library : Library) (functions : Functions) (name : String)
    (given : List (String × Json)) : Except Failure String :=
  match library.find? name with
  | none => .error (.unknown name)
  | some entry =>
    -- A template that extends another one is only a set of blocks for the last parent.
    let root := (entry.parents.getLast?.bind library.find?).getD entry
    let start : Scene := ⟨[⟨name, [], none⟩], given, "", none, functions⟩
    match (renderAll (library.surroundings deepest) root.template.nodes).run.run start with
    | (.ok (), scene) => .ok scene.output
    | (.error trouble, scene) =>
      .error (.rendering name (placeOfError entry scene.lastBlock) trouble)

/-- Renders a template that has no functions to call. -/
def render (library : Library) : String → List (String × Json) → Except Failure String :=
  library.renderWith .none

end Library

end UdsCatalog.Template
