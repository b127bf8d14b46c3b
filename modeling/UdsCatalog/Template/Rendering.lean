import UdsCatalog.Template.Meaning
import UdsCatalog.Template.Node
import UdsCatalog.Text.Cluster

/-!
Rendering: a template's nodes, one after the other, append to the output of a scene. The scene
survives an error, so that it can still be told where the error happened.
-/

namespace UdsCatalog.Template

/-- A step of rendering. -/
abbrev Render (α : Type) := ExceptT Trouble (StateM Scene) α

/-- What nodes ask of the templates around them. -/
structure Surroundings where
  /-- Renders an included template, if there is one of the name. -/
  include? : String → Option (Render Unit)
  /-- Renders a block by its name, or the body it has where it stands. -/
  block : String → Render Unit → Render Unit

/-- Appends to the output. -/
def emit (text : String) : Render Unit :=
  modify fun scene => { scene with output := scene.output ++ text }

/-- Puts the frames in place. -/
def setFrames (frames : List Frame) : Render Unit :=
  modify fun scene => { scene with frames }

/-- The value of an expression where rendering stands. -/
def valueOf (expression : Expression) : Render Json := do
  match expression.evaluate (← get) with
  | .ok value => return value
  | .error trouble => throw trouble

/-- The truth of a condition where rendering stands. -/
def truthOf (expression : Expression) : Render Bool := do
  match expression.holds (← get) with
  | .ok truth => return truth
  | .error trouble => throw trouble

/-- Sets a name in a list of names. -/
def setName (name : String) (value : Json) (names : List (String × Json)) : List (String × Json) :=
  (name, value) :: names.filter fun (other, _) => other != name

/-- Sets a name in the innermost frame, or in the innermost that is no turn of a loop. -/
def assignIn (isGlobal : Bool) (name : String) (value : Json) : List Frame → List Frame
  | [] => []
  | frame :: rest =>
    -- Turns of loops are skipped, up to the frame of the template.
    if isGlobal && frame.loop.isSome then frame :: assignIn isGlobal name value rest
    else { frame with names := setName name value frame.names } :: rest

/-- Tells the loop of the innermost frame how to go on. What stands in the place of a loop without items is
in no frame of that loop, so there may be none. -/
def signalLoop (word : String) (signal : Signal) : Render Unit := do
  match (← get).frames with
  | { template, names, loop := some loop } :: rest =>
    -- Rendering goes on up to the end of the node, and then the signal is seen.
    setFrames ({ template, names, loop := some { loop with signal } } :: rest)
  | _ => throw (.outsideLoop word)

/-- How the innermost loop goes on. -/
def signalOf (frames : List Frame) : Signal :=
  match frames with
  | { loop := some loop, .. } :: _ => loop.signal
  -- Where no loop is innermost, nothing can be told to stop.
  | _ => .goOn

/-- The items of a text: its clusters of characters. There are as many items as characters, and the last
ones are empty when some clusters have several. -/
def textItems (text : String) : List (String × Json) :=
  let clusters := (Text.Cluster.split text.toList).map String.ofList
  -- The count is one of characters, and so is the number of turns.
  (clusters ++ List.replicate (text.length - clusters.length) "").map fun item => ("", .text item)

/-- What a loop runs over. -/
def itemsOf (container : String) (key : Option String) (value : Json) :
    Except Trouble (List (String × Json)) :=
  match value, key with
  | .array items, none => .ok (items.map fun item => ("", item))
  | .text text, none => .ok (textItems text)
  | .object fields, some _ => .ok fields
  -- A key asks for an object, whatever else the value is.
  | .array _, some _ | .text _, some _ => .error (.keyWithoutObject container)
  | .object _, none => .error (.objectWithoutKey container)
  | _, _ => .error (.notIterable container)

/-- The name of a container in messages; other cores than these cannot be looped over. -/
def containerName (core : Core) : Except Trouble String :=
  match core with
  | .reference reference => .ok reference.text
  | .call name _ => .ok name
  -- A list has no name of its own.
  | .list _ => .ok "an array literal"
  | other => .error (.wrongContainer other.description)

/-- The items of a container where rendering stands. -/
def itemsFor (key : Option String) (container : Expression) : Render (List (String × Json)) := do
  let scene ← get
  let items : Except Trouble (List (String × Json)) := do
    -- The shape is looked at first, so a container of a wrong shape is never evaluated.
    let name ← containerName container.core
    itemsOf name key (← container.evaluate scene)
  match items with
  | .ok items => return items
  | .error trouble => throw trouble

/-- Renders the turns of a loop. Names set in one turn are gone in the next. -/
def turns (valueName : String) (keyName : Option String) (count : Nat) (outer : List Frame)
    (template : String) (body : Render Unit) : Nat → List (String × Json) → Render Unit
  | _, [] => pure ()
  | index, (key, value) :: rest => do
    let frames := (← get).frames
    -- Names set for a whole template live in the frames around the loop.
    let around := if index == 0 then outer else frames.drop 1
    let loop : LoopState := ⟨valueName, keyName, key, value, index, count, .goOn⟩
    -- Each turn has a fresh frame, which is how the names of the last one go.
    setFrames (⟨template, [], some loop⟩ :: around)
    body
    match signalOf (← get).frames with
    -- Only the remaining turns are dropped. The output of this one stays.
    | .leave => pure ()
    | _ => turns valueName keyName count outer template body (index + 1) rest

/-- Renders a loop that has items. -/
def renderLoop (key : Option String) (value : String) (items : List (String × Json))
    (body : Render Unit) : Render Unit := do
  -- The items are counted once, and the count does not change while the loop runs.
  let scene ← get
  turns value key items.length scene.frames scene.template body 0 items
  setFrames ((← get).frames.drop 1)

/-- The first of several templates that exists. -/
def firstIncluded (surroundings : Surroundings) : List String → Option (Render Unit)
  | [] => none
  | name :: rest =>
    match surroundings.include? name with
    | some found => some found
    -- Names that are not there are passed over in silence, as long as one of them is.
    | none => firstIncluded surroundings rest

/-- Renders included templates. -/
def renderInclude (surroundings : Surroundings) (names : List String) (optional : Bool) : Render Unit :=
  match firstIncluded surroundings names with
  | some found => found
  | none =>
    if optional then pure ()
    else throw (.unknownTemplate ("[" ++ ", ".intercalate names ++ "]"))

mutual

/-- Renders a node. -/
def Node.render (surroundings : Surroundings) : Node → Render Unit
  | .text text => emit text
  | .verbatim text => emit text
  | .comment => pure ()
  | .output value => do emit (shown (← valueOf value))
  | .assign isGlobal name value => do
    -- The value is worked out before the name is set, so it may use the old one.
    let value ← valueOf value
    setFrames (assignIn isGlobal name value (← get).frames)
  | .include names optional => renderInclude surroundings names optional
  -- A parent is followed from the library. Met while rendering, the tag is in an included template.
  | .extends parent => throw (.extendsInside parent)
  | .leave => signalLoop "break" .leave
  | .next => signalLoop "continue" .next
  | .each key value container body empty => do
    match ← itemsFor key container with
    -- No turn is begun, so there is no frame of the loop either.
    | [] => renderAll surroundings empty
    | item :: rest => renderLoop key value (item :: rest) (renderAll surroundings body)
  | .choose arms otherwise => renderArms surroundings (renderAll surroundings otherwise) arms
  | .block name body => surroundings.block name (renderAll surroundings body)

/-- Renders nodes until a loop is told to leave or to take its next turn. -/
def renderAll (surroundings : Surroundings) : List Node → Render Unit
  | [] => pure ()
  | node :: rest => do
    node.render surroundings
    -- The signal is asked after every node, since a choice inside may have given it.
    match signalOf (← get).frames with
    | .goOn => renderAll surroundings rest
    | _ => pure ()

/-- Renders the first arm whose condition holds. -/
def renderArms (surroundings : Surroundings) (otherwise : Render Unit) :
    List (Expression × List Node) → Render Unit
  | [] => otherwise
  | (condition, body) :: rest => do
    -- Conditions behind the first that holds are not evaluated.
    if ← truthOf condition then renderAll surroundings body
    else renderArms surroundings otherwise rest

end

end UdsCatalog.Template
