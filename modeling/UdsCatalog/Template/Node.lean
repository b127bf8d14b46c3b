import UdsCatalog.Template.Piece
import UdsCatalog.Text.Blank

/-!
Templates as trees. Pieces are nested one after the other; loops, choices and blocks that are still
open wait on a stack, and blanks fall away at the tags that ask for it.
-/

namespace UdsCatalog.Template

/-- A part of a template. -/
inductive Node where
  | text (text : String)
  /-- Text that no tag trims. -/
  | verbatim (text : String)
  | comment
  | output (value : Expression)
  | assign (isGlobal : Bool) (name : String) (value : Expression)
  | include (names : List String) (optional : Bool)
  | extends (parent : String)
  | leave
  | next
  /-- A loop over the items of a container, and what stands in its place when there are none. -/
  | each (key : Option String) (value : String) (container : Expression) (body empty : List Node)
  | choose (arms : List (Expression × List Node)) (otherwise : List Node)
  | block (name : String) (body : List Node)
  deriving Repr

/-- A template: its name, the template it extends, its parts, and the blocks it defines. -/
structure Tree where
  name : String
  parent : Option String
  nodes : List Node
  blocks : List (String × List Node)
  deriving Repr

/-- A loop, choice or block that is still open. -/
inductive OpenNode where
  /-- The mark of the loop's tag, and the body in reverse order once the alternative has begun. -/
  | each (key : Option String) (value : String) (container : Expression) (trims : Bool)
      (body : Option (List Node))
  /-- The arms before the current one in reverse order, and the condition of the current one. -/
  | choose (arms : List (Expression × List Node)) (condition : Option Expression)
  | block (name : String)
  deriving Repr

/-- The nodes read so far: the current body in reverse order, whether blanks in front of the next text
fall away, and what is still open, each with the body around it. -/
structure Nesting where
  body : List Node
  trims : Bool
  outer : List (OpenNode × List Node)
  deriving Repr

namespace Nesting

/-- Nothing has been read. -/
def start : Nesting := ⟨[], false, []⟩

/-- A body in reverse order without the blanks at the end of its last text. -/
def trimEnd (trims : Bool) (body : List Node) : List Node :=
  match trims, body with
  | true, .text text :: rest =>
    let kept := Text.trimRight text.toList
    -- A text of blanks alone disappears, but the text in front of it is not trimmed.
    if kept.isEmpty then rest else .text (String.ofList kept) :: rest
  | _, body => body

/-- Appends a text; a text of which nothing is left disappears. -/
def pushText (nesting : Nesting) (text : String) : Nesting :=
  if nesting.trims then
    let kept := Text.trimLeft text.toList
    -- The mark has done its work, even if the next text begins with blanks again.
    if kept.isEmpty then { nesting with trims := false }
    else { nesting with body := .text (String.ofList kept) :: nesting.body, trims := false }
  else { nesting with body := .text text :: nesting.body }

/-- Appends a node that stands between marks. -/
def push (nesting : Nesting) (marks : Marks) (node : Node) : Nesting :=
  -- A mark reaches back to the text just in front and forth to the one just behind.
  { nesting with body := node :: trimEnd marks.left nesting.body, trims := marks.right }

/-- Opens a loop, choice or block. -/
def enter (nesting : Nesting) (marks : Marks) (opened : OpenNode) : Nesting :=
  ⟨[], marks.right, (opened, trimEnd marks.left nesting.body) :: nesting.outer⟩

/-- Some loop is open. -/
def inLoop (nesting : Nesting) : Bool :=
  -- Choices and blocks in between make no difference.
  nesting.outer.any fun | (.each .., _) => true | _ => false

/-- The text of a part that is kept as it stands, except where its own marks trim it. -/
def verbatimText (opening closing : Marks) (text : List Char) : String :=
  let text := if opening.right then Text.trimLeft text else text
  String.ofList (if closing.left then Text.trimRight text else text)

/-- The arms of a choice, in order, when its current body ends. -/
def endArms (arms : List (Expression × List Node)) (condition : Option Expression)
    (body : List Node) : List (Expression × List Node) × List Node :=
  match condition with
  | some condition => (((condition, body.reverse) :: arms).reverse, [])
  -- The current body is the alternative, as no condition waits for it.
  | none => (arms.reverse, body.reverse)

/-- Appends what a tag says. Tags that are out of place are refused. -/
def pushTag? (nesting : Nesting) (marks : Marks) (tag : Tag) : Option Nesting :=
  match tag, nesting.outer with
  | .comment, _ => some (nesting.push marks .comment)
  | .output value, _ => some (nesting.push marks (.output value))
  | .assign isGlobal name value, _ => some (nesting.push marks (.assign isGlobal name value))
  | .include names optional, _ => some (nesting.push marks (.include names optional))
  | .extends parent, _ => some (nesting.push marks (.extends parent))
  | .leave, _ => if nesting.inLoop then some (nesting.push marks .leave) else none
  | .next, _ => if nesting.inLoop then some (nesting.push marks .next) else none
  | .each key value container, _ =>
    some (nesting.enter marks (.each key value container marks.right none))
  | .choose condition, _ => some (nesting.enter marks (.choose [] (some condition)))
  -- Blocks may stand in choices, but not in loops.
  | .block name, _ => if nesting.inLoop then none else some (nesting.enter marks (.block name))
  | .orChoose condition, (.choose arms (some before), around) :: outer =>
    let arm := (before, (trimEnd marks.left nesting.body).reverse)
    some ⟨[], marks.right, (.choose (arm :: arms) (some condition), around) :: outer⟩
  | .otherwise, (.choose arms (some before), around) :: outer =>
    let arm := (before, (trimEnd marks.left nesting.body).reverse)
    some ⟨[], marks.right, (.choose (arm :: arms) none, around) :: outer⟩
  -- The body is trimmed when the loop ends. Behind this tag, the mark of the loop's own tag decides.
  | .otherwise, (.each key value container trims none, around) :: outer =>
    some ⟨[], trims, (.each key value container trims (some nesting.body), around) :: outer⟩
  | .endChoose, (.choose arms condition, around) :: outer =>
    let (arms, otherwise) := endArms arms condition (trimEnd marks.left nesting.body)
    some ⟨.choose arms otherwise :: around, marks.right, outer⟩
  | .endEach, (.each key value container _ body, around) :: outer =>
    let last := (trimEnd marks.left nesting.body).reverse
    let node := match body with
      | none => .each key value container last []
      | some body => .each key value container (trimEnd marks.left body).reverse last
    some ⟨node :: around, marks.right, outer⟩
  | .endBlock, (.block name, around) :: outer =>
    some ⟨.block name (trimEnd marks.left nesting.body).reverse :: around, marks.right, outer⟩
  -- A tag that belongs to something else than what was opened last.
  | _, _ => none

/-- Appends a piece. -/
def pushPiece? (nesting : Nesting) : Piece → Option Nesting
  | .text text => some (nesting.pushText text)
  -- The outer marks work on the texts around, the inner ones on the text itself.
  | .verbatim opening text closing =>
    some (nesting.push ⟨opening.left, closing.right⟩ (.verbatim (verbatimText opening closing text)))
  | .tag marks tag => nesting.pushTag? marks tag

/-- The nodes of the pieces; none when they do not nest. -/
def nodes? (nesting : Nesting) : List Piece → Option (List Node)
  -- Something that is still open makes the text no template.
  | [] => if nesting.outer.isEmpty then some nesting.body.reverse else none
  | piece :: rest =>
    match nesting.pushPiece? piece with
    | some nesting => nesting.nodes? rest
    | none => none

end Nesting

mutual

/-- The blocks that a node defines, the outer ones first. Blocks inside loops and choices do not count. -/
def Node.blocks : Node → List (String × List Node)
  | .block name body => (name, body) :: blocksOf body
  -- Only a block directly in the template, or in such a block, can be replaced.
  | _ => []

/-- The blocks that nodes define. -/
def blocksOf : List Node → List (String × List Node)
  | [] => []
  | node :: rest => node.blocks ++ blocksOf rest

end

/-- Some name comes twice. -/
def hasTwice : List String → Bool
  | [] => false
  | name :: rest => rest.contains name || hasTwice rest

/-- The template that the nodes extend. -/
def parentOf (nodes : List Node) : Option String :=
  nodes.findSome? fun | .extends parent => some parent | _ => none

/-- Reads a template; none when the text is no template. No block may be defined twice. -/
def Tree.ofText? (name text : String) : Option Tree := do
  let nodes ← Nesting.start.nodes? (← Piece.ofText? text)
  let blocks := blocksOf nodes
  -- The lookup by name would find only the first of them.
  if hasTwice (blocks.map (·.1)) then none
  else return { name, parent := parentOf nodes, nodes, blocks }

end UdsCatalog.Template
