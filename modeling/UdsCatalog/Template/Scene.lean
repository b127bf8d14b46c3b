import UdsCatalog.Json.Basic
import UdsCatalog.Template.Reference
import UdsCatalog.Template.Trouble

/-!
What a template sees while it is rendered: the values it was given, and the names given inside of it.
Names are kept in frames, one for each template and each loop, and looked up from the innermost outward.
-/

namespace UdsCatalog.Template

/-- How a turn of a loop goes on. -/
inductive Signal where
  | goOn
  | leave
  | next
  deriving DecidableEq, Repr

/-- A loop at one of its items. -/
structure LoopState where
  valueName : String
  keyName : Option String
  /-- The key and the value of the current item. -/
  key : String
  value : Json
  index : Nat
  count : Nat
  signal : Signal
  deriving Repr

/-- The names of a template, or of one turn of a loop in it. -/
structure Frame where
  template : String
  names : List (String × Json)
  loop : Option LoopState
  deriving Repr

/-- The functions that templates can call. Each gives a value for named arguments, or tells why it cannot. -/
abbrev Functions := String → Option (List (String × Json) → Except String Json)

/-- There are no functions to call. -/
def Functions.none : Functions := fun _ => Option.none

/-- Where rendering stands: the frames, the innermost first, the values given from outside, the text
so far, the block that was begun last, with how far its definition is up the line of parents, and the
functions that can be called. -/
structure Scene where
  frames : List Frame
  given : List (String × Json)
  output : String
  lastBlock : Option (String × Nat)
  functions : Functions

/-- An item number among digits that do not start with a needless zero or a sign. -/
def itemNumber? (key : String) : Option Nat :=
  let digits := key.toList
  -- A leading zero makes a name of it, unless it is the only digit.
  if digits.isEmpty || !digits.all Char.isDigit || (digits.head? == some '0' && digits.length != 1) then
    none
  else some (digits.foldl (fun value c => value * 10 + (c.toNat - '0'.toNat)) 0)

/-- The value that some steps lead to. -/
def follow? : List String → Json → Option Json
  | [], value => some value
  | key :: keys, .object fields => (fields.lookup key).bind (follow? keys)
  | key :: keys, .array items => ((itemNumber? key).bind fun n => items[n]?).bind (follow? keys)
  -- Nothing is inside of a text, a number or a truth value.
  | _ :: _, _ => none

/-- What a loop tells of itself. -/
def LoopState.own? (loop : LoopState) (tail : String) : Option Json :=
  match tail with
  -- Both counts are there, from one and from zero.
  | "index" => some (.int (loop.index + 1))
  | "index0" => some (.int loop.index)
  | "first" => some (.bool (loop.index == 0))
  | "last" => some (.bool (loop.index + 1 == loop.count))
  | _ => none

/-- What a loop knows under a name. What it tells of itself hides the names it gives, and the name of the
key hides that of the value. -/
def LoopState.find? (loop : LoopState) (root tail : String) : Option Json :=
  -- A loop whose value is called like this cannot be reached under that name.
  if root == "loop" then loop.own? tail
  -- Keys are texts, so no further step leads anywhere.
  else if loop.keyName == some root && tail == "" then some (.text loop.key)
  else if root == loop.valueName then follow? (Reference.steps tail) loop.value
  else none

/-- What a frame knows under a name. -/
def Frame.find? (frame : Frame) (root tail : String) : Option Json :=
  match (frame.names.lookup root).bind (follow? (Reference.steps tail)) with
  | some value => some value
  -- Names that were set in this turn hide those of the loop.
  | none => frame.loop.bind fun loop => loop.find? root tail

/-- What a scene knows under a text without brackets. -/
def Scene.find? (scene : Scene) (text : List Char) : Option Json :=
  let (root, tail) := Reference.rootAndTail text
  match scene.frames.findSome? (fun frame => frame.find? root tail) with
  | some value => some value
  -- The values given from outside are the outermost frame.
  | none => (scene.given.lookup root).bind (follow? (Reference.steps tail))

/-- The name of the template that is rendered. -/
def Scene.template (scene : Scene) : String :=
  match scene.frames with
  | frame :: _ => frame.template
  | [] => ""

/-- The text of a value that is put in the place of an index. -/
def indexText? : Json → Option String
  -- Quotes keep the points of a key from being read as steps.
  | .text key => some ("\"" ++ key ++ "\"")
  | .number number => some number.toText
  | _ => none

/-- The value that the text of a reference leads to. Its indices are worked out first, one after the other.
The number bounds how deep they nest. -/
def Scene.valueAt (scene : Scene) : Nat → List Char → Except Trouble Json
  | 0, text => .error (.unknownName (String.ofList text) scene.template)
  | room + 1, text =>
    -- Without brackets there is nothing to work out.
    if !text.contains '[' then
      match scene.find? text with
      | some value => .ok value
      | none => .error (.unknownName (String.ofList text) scene.template)
    else do
      let worked ← (Reference.indices text).foldlM (fun worked index => do
        match scene.valueAt room index with
        -- Only the wording of the cause is kept, and its own causes are lost.
        | .error trouble => .error (.unusableIndex (String.ofList text) trouble.message)
        | .ok value =>
          match indexText? value with
          | none => .error (.wrongIndex (String.ofList index) (String.ofList text))
          | some key => return Reference.putInPlace ('[' :: index ++ [']']) ('.' :: key.toList) worked) text
      -- From here on the indices are ordinary steps, wherever they came from.
      let pointed := Reference.pointed worked
      match scene.find? pointed with
      | some value => .ok value
      | none =>
        .error (.unknownItem (String.ofList text) scene.template (String.ofList pointed))

/-- The value that a reference leads to. -/
def Scene.resolve (scene : Scene) (reference : Reference) : Except Trouble Json :=
  -- An index is shorter than the reference around it, so the bound is never met.
  scene.valueAt (reference.text.length + 1) reference.text.toList

end UdsCatalog.Template
