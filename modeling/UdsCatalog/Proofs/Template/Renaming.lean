import Mathlib
import UdsCatalog.Proofs.Steps
import UdsCatalog.Proofs.Template.Agreement
import UdsCatalog.Template.Library

/-!
A template renders the same under any name. Names of templates are kept in the frames of a scene; they
tell blocks where to look for their bodies, and apart from that only messages show them. So rendering
is followed in two scenes that differ in nothing but these names.
-/

namespace UdsCatalog.Template

/-! ### Names that templates mention -/

mutual

/-- The templates that a node mentions. -/
def Node.mentions : Node → List String
  | .include names _ => names
  | .extends parent => [parent]
  | .each _ _ _ body empty => mentionsOf body ++ mentionsOf empty
  | .choose arms otherwise => mentionsOfArms arms ++ mentionsOf otherwise
  | .block _ body => mentionsOf body
  | _ => []

/-- The templates that nodes mention. -/
def mentionsOf : List Node → List String
  | [] => []
  | node :: rest => node.mentions ++ mentionsOf rest

/-- The templates that arms mention. -/
def mentionsOfArms : List (Expression × List Node) → List String
  | [] => []
  | (_, body) :: rest => mentionsOf body ++ mentionsOfArms rest

end

mutual

/-- The body of a block in a node mentions no others than the node. -/
theorem Node.mentionsOf_subset {name : String} {body : List Node} :
    (node : Node) → (name, body) ∈ node.blocks → mentionsOf body ⊆ node.mentions
  | .block own inner, member => by
    rw [Node.blocks, List.mem_cons] at member
    rw [Node.mentions]
    rcases member with same | member
    · cases same
      exact fun _ => id
    · exact mentionsOf_subset inner member
  -- No other node defines a block, as far as blocks count.
  | .text _, member | .verbatim _, member | .comment, member | .output _, member
  | .assign _ _ _, member | .include _ _, member | .extends _, member | .leave, member
  | .next, member | .each _ _ _ _ _, member | .choose _ _, member => by
    simp [Node.blocks] at member

/-- The body of a block in nodes mentions no others than the nodes. -/
theorem mentionsOf_subset {name : String} {body : List Node} :
    (nodes : List Node) → (name, body) ∈ blocksOf nodes → mentionsOf body ⊆ mentionsOf nodes
  | [], member => nomatch member
  -- The block is in the first node or in one of the others.
  | node :: rest, member => by
    rw [blocksOf, List.mem_append] at member
    rw [mentionsOf]
    rcases member with here | later
    · exact List.subset_append_of_subset_left _ (node.mentionsOf_subset here)
    · exact List.subset_append_of_subset_right _ (mentionsOf_subset rest later)

end

/-! ### Scenes -/

section Scenes

variable (pairs : String → String → Prop)

/-- Two frames differ only in the names of their templates, which belong together. -/
structure FramesMatch (frame other : Frame) : Prop where
  template : pairs frame.template other.template
  names : frame.names = other.names
  loop : frame.loop = other.loop

/-- Two scenes differ only in the names of templates, which belong together. -/
structure ScenesMatch (scene other : Scene) : Prop where
  frames : List.Forall₂ (FramesMatch pairs) scene.frames other.frames
  given : scene.given = other.given
  output : scene.output = other.output
  lastBlock : scene.lastBlock = other.lastBlock
  functions : scene.functions = other.functions

/-- Two runs end with the same result in scenes that match, or both with a trouble. -/
inductive RunsMatch {α : Type} : Except Trouble α × Scene → Except Trouble α × Scene → Prop
  | ok (result : α) {scene other : Scene} (scenes : ScenesMatch pairs scene other) :
      RunsMatch (.ok result, scene) (.ok result, other)
  | error (trouble otherTrouble : Trouble) (scene other : Scene) :
      RunsMatch (.error trouble, scene) (.error otherTrouble, other)

/-- Two steps do the same in scenes that match. -/
def StepsMatch {α : Type} (step other : Render α) : Prop :=
  ∀ scene otherScene, ScenesMatch pairs scene otherScene →
    RunsMatch pairs (step.run.run scene) (other.run.run otherScene)

end Scenes

variable {pairs : String → String → Prop}

/-- Frames that match know the same under every name. -/
theorem findSome?_eq {frames others : List Frame}
    (match_ : List.Forall₂ (FramesMatch pairs) frames others) (root tail : String) :
    frames.findSome? (·.find? root tail) = others.findSome? (·.find? root tail) := by
  -- A frame answers from its names and its loop, and never from the template that it belongs to.
  induction match_ with
  | nil => rfl
  | @cons frame other _ _ head _ ih =>
    have same : frame.find? root tail = other.find? root tail := by
      simp only [Frame.find?, head.names, head.loop]
    rw [List.findSome?_cons, List.findSome?_cons, same, ih]

/-- Frames that match tell their loop to go on alike. -/
theorem signalOf_eq {frames others : List Frame}
    (match_ : List.Forall₂ (FramesMatch pairs) frames others) :
    signalOf frames = signalOf others := by
  -- The signal is part of the loop, and matching frames have the same loop.
  cases match_ with
  | nil => rfl
  | @cons frame other _ _ head _ =>
    obtain ⟨template, names, loop⟩ := frame
    obtain ⟨otherTemplate, otherNames, otherLoop⟩ := other
    obtain rfl : loop = otherLoop := head.loop
    cases loop <;> rfl

/-- Assigning a name in frames that match leaves frames that match. -/
theorem assignIn_match (isGlobal : Bool) (name : String) (value : Json) {frames others : List Frame}
    (match_ : List.Forall₂ (FramesMatch pairs) frames others) :
    List.Forall₂ (FramesMatch pairs) (assignIn isGlobal name value frames)
      (assignIn isGlobal name value others) := by
  -- A global name passes by the frames of loops, and these are loops in both scenes.
  induction match_ with
  | nil => exact .nil
  | @cons frame other _ _ head rest ih =>
    rw [assignIn, assignIn, head.loop]
    split
    · exact .cons head ih
    · exact .cons ⟨head.template, by simp only [head.names], rfl⟩ rest

namespace ScenesMatch

variable {scene other : Scene}

/-- Scenes that match find the same under every name. -/
theorem sameSight (scenes : ScenesMatch pairs scene other) : SameSight scene other := by
  refine ⟨fun text => ?_, scenes.functions⟩
  simp only [Scene.find?, findSome?_eq scenes.frames, scenes.given]

/-- The templates of scenes that match belong together. -/
theorem template (scenes : ScenesMatch pairs scene other) (nowhere : pairs "" "") :
    pairs scene.template other.template := by
  -- A scene without frames has no template, which counts as the empty name.
  have match_ := scenes.frames
  unfold Scene.template
  generalize scene.frames = frames at match_ ⊢
  generalize other.frames = others at match_ ⊢
  cases match_ with
  | nil => exact nowhere
  | cons head _ => exact head.template

end ScenesMatch

/-! ### Steps -/

namespace StepsMatch

variable {α β : Type}

/-- A result is the same everywhere. -/
theorem pure (value : α) : StepsMatch pairs (pure value) (pure value) :=
  fun _ _ scenes => .ok value scenes

/-- Two troubles match, whatever they tell. -/
theorem throw (trouble other : Trouble) :
    StepsMatch pairs (throw trouble : Render α) (throw other) :=
  fun scene otherScene _ => .error trouble other scene otherScene

/-- Steps that match are followed by steps that match. -/
theorem bind {step other : Render α} {next otherNext : α → Render β}
    (steps : StepsMatch pairs step other)
    (follow : ∀ value, StepsMatch pairs (next value) (otherNext value)) :
    StepsMatch pairs (step >>= next) (other >>= otherNext) := by
  -- A step that fails ends both runs, and one that gives a value goes on with the same value.
  intro scene otherScene scenes
  have runs := steps scene otherScene scenes
  rw [run_bind_eq, run_bind_eq]
  generalize step.run.run scene = first at runs ⊢
  generalize other.run.run otherScene = second at runs ⊢
  cases runs with
  | ok result scenes => exact follow result _ _ scenes
  | error trouble otherTrouble scene other => exact .error _ _ _ _

/-- What is done with scenes that match matches. -/
theorem get {next otherNext : Scene → Render α}
    (follow : ∀ scene other, ScenesMatch pairs scene other →
      StepsMatch pairs (next scene) (otherNext other)) :
    StepsMatch pairs (MonadState.get >>= next) (MonadState.get >>= otherNext) :=
  fun scene other scenes => follow scene other scenes scene other scenes

/-- A change that leaves scenes that match matches. -/
theorem modify {change otherChange : Scene → Scene}
    (changes : ∀ scene other, ScenesMatch pairs scene other →
      ScenesMatch pairs (change scene) (otherChange other)) :
    StepsMatch pairs (modify change) (modify otherChange) :=
  fun scene other scenes => .ok () (changes scene other scenes)

/-- Frames that match are put in place. -/
theorem setFrames {frames others : List Frame}
    (match_ : List.Forall₂ (FramesMatch pairs) frames others) :
    StepsMatch pairs (setFrames frames) (setFrames others) :=
  modify fun _ _ scenes => { scenes with frames := match_ }

/-- Text goes to both outputs. -/
theorem emit (text : String) : StepsMatch pairs (emit text) (emit text) :=
  modify fun _ _ scenes => { scenes with output := by simp only [scenes.output] }

/-- An expression has the same value. -/
theorem valueOf (expression : Expression) :
    StepsMatch pairs (valueOf expression) (valueOf expression) := by
  -- A value depends on what is found under names, and that is the same in both scenes.
  refine get fun scene other scenes => ?_
  have agree : Agree (expression.evaluate scene) (expression.evaluate other) :=
    (expression.meaning_agree scenes.sameSight).value
  rcases agree.cases with ⟨value, here, there⟩ | ⟨trouble, otherTrouble, here, there⟩ <;>
    rw [here, there]
  · exact pure value
  · exact throw trouble otherTrouble

/-- A condition has the same truth. -/
theorem truthOf (condition : Expression) :
    StepsMatch pairs (truthOf condition) (truthOf condition) := by
  -- Scenes with the same sight agree on conditions, so both go on or both fail.
  refine get fun scene other scenes => ?_
  have agree : Agree (condition.holds scene) (condition.holds other) :=
    (condition.meaning_agree scenes.sameSight).truth
  rcases agree.cases with ⟨truth, here, there⟩ | ⟨trouble, otherTrouble, here, there⟩ <;>
    rw [here, there]
  · exact pure truth
  · exact throw trouble otherTrouble

/-- A container has the same items. -/
theorem itemsFor (key : Option String) (container : Expression) :
    StepsMatch pairs (itemsFor key container) (itemsFor key container) := by
  -- The container has one shape in both, and its values agree.
  refine get fun scene other scenes => ?_
  have values : Agree (container.evaluate scene) (container.evaluate other) :=
    (container.meaning_agree scenes.sameSight).value
  have agree : Agree (do itemsOf (← containerName container.core) key (← container.evaluate scene))
      (do itemsOf (← containerName container.core) key (← container.evaluate other)) :=
    (Agree.refl (containerName container.core)).bind fun _ => values.bind fun _ => .refl _
  rcases agree.cases with ⟨items, here, there⟩ | ⟨trouble, otherTrouble, here, there⟩ <;>
    simp only [here, there]
  · exact pure items
  · exact throw trouble otherTrouble

/-- A loop is told alike how to go on. -/
theorem signalLoop (word : String) (signal : Signal) :
    StepsMatch pairs (signalLoop word signal) (signalLoop word signal) := by
  -- The topmost frame is that of a loop in both scenes, or in none.
  refine get fun scene other scenes => ?_
  have match_ := scenes.frames
  generalize scene.frames = frames at match_ ⊢
  generalize other.frames = others at match_ ⊢
  cases match_ with
  | nil => exact throw _ _
  | @cons frame other _ _ head rest =>
    obtain ⟨template, names, loop⟩ := frame
    obtain ⟨otherTemplate, otherNames, otherLoop⟩ := other
    obtain rfl : names = otherNames := head.names
    obtain rfl : loop = otherLoop := head.loop
    cases loop with
    | none => exact throw _ _
    | some loop => exact setFrames (.cons ⟨head.template, rfl, rfl⟩ rest)

/-- The turns of loops whose bodies match match. -/
theorem turns {valueName : String} {keyName : Option String} {count : Nat} {outer others : List Frame}
    {template otherTemplate : String} {body otherBody : Render Unit}
    (around : List.Forall₂ (FramesMatch pairs) outer others) (pair : pairs template otherTemplate)
    (bodies : StepsMatch pairs body otherBody) (index : Nat) (items : List (String × Json)) :
    StepsMatch pairs (turns valueName keyName count outer template body index items)
      (turns valueName keyName count others otherTemplate otherBody index items) := by
  -- The first turn stands on the frames around the loop, each later one in place of the turn before.
  induction items generalizing index with
  | nil => exact pure ()
  | cons item rest ih =>
    obtain ⟨key, value⟩ := item
    refine get fun scene other scenes => ?_
    have outside : List.Forall₂ (FramesMatch pairs)
        (if index == 0 then outer else scene.frames.drop 1)
        (if index == 0 then others else other.frames.drop 1) := by
      split
      · exact around
      · exact List.forall₂_drop 1 scenes.frames
    have turn : FramesMatch pairs
        ⟨template, [], some ⟨valueName, keyName, key, value, index, count, .goOn⟩⟩
        ⟨otherTemplate, [], some ⟨valueName, keyName, key, value, index, count, .goOn⟩⟩ :=
      ⟨pair, rfl, rfl⟩
    refine (setFrames (.cons turn outside)).bind fun _ => bodies.bind fun _ => ?_
    -- The body may have told the loop to end, in both scenes alike.
    refine get fun scene other scenes => ?_
    rw [signalOf_eq scenes.frames]
    split
    · exact pure ()
    · exact ih (index + 1)

/-- Loops whose bodies match match. -/
theorem renderLoop (nowhere : pairs "" "") (key : Option String) (value : String)
    (items : List (String × Json)) {body otherBody : Render Unit}
    (bodies : StepsMatch pairs body otherBody) :
    StepsMatch pairs (renderLoop key value items body) (renderLoop key value items otherBody) :=
  get fun _ _ scenes =>
    (turns scenes.frames (scenes.template nowhere) bodies 0 items).bind fun _ =>
      get fun _ _ scenes => setFrames (List.forall₂_drop 1 scenes.frames)

end StepsMatch

/-! ### Nodes -/

/-- Two surroundings match: what is included under a name that belongs to itself matches, and so do
blocks whose bodies match. -/
structure SurroundingsMatch (pairs : String → String → Prop) (surroundings other : Surroundings) :
    Prop where
  nowhere : pairs "" ""
  include_ : ∀ name, pairs name name →
    Option.Rel (StepsMatch pairs) (surroundings.include? name) (other.include? name)
  block : ∀ name standing otherStanding, StepsMatch pairs standing otherStanding →
    StepsMatch pairs (surroundings.block name standing) (other.block name otherStanding)

section Nodes

variable {surroundings other : Surroundings}

/-- The first template that exists is the same. -/
theorem firstIncluded_match (around : SurroundingsMatch pairs surroundings other)
    {names : List String} (own : ∀ name ∈ names, pairs name name) :
    Option.Rel (StepsMatch pairs) (firstIncluded surroundings names) (firstIncluded other names) := by
  -- A name is passed over in one library just when it is in the other one.
  induction names with
  | nil => exact .none
  | cons name rest ih =>
    obtain ⟨first, own⟩ := List.forall_mem_cons.mp own
    have included := around.include_ name first
    unfold firstIncluded
    generalize surroundings.include? name = here at included ⊢
    generalize other.include? name = there at included ⊢
    cases included with
    | none => exact ih own
    | some steps => exact .some steps

/-- Included templates match. -/
theorem renderInclude_match (around : SurroundingsMatch pairs surroundings other)
    {names : List String} (own : ∀ name ∈ names, pairs name name) (optional : Bool) :
    StepsMatch pairs (renderInclude surroundings names optional)
      (renderInclude other names optional) := by
  -- The first name that is there is the same in both, as the names are mapped to themselves.
  have included := firstIncluded_match around own
  unfold renderInclude
  generalize firstIncluded surroundings names = here at included ⊢
  generalize firstIncluded other names = there at included ⊢
  cases included with
  | some steps => exact steps
  | none =>
    dsimp only
    split
    · exact .pure ()
    · exact .throw _ _

mutual

/-- A node renders the same when the templates that it mentions belong to themselves. -/
theorem Node.render_match (around : SurroundingsMatch pairs surroundings other) :
    (node : Node) → (∀ name ∈ node.mentions, pairs name name) →
      StepsMatch pairs (node.render surroundings) (node.render other)
  | .text text, _ => .emit text
  | .verbatim text, _ => .emit text
  | .comment, _ => .pure ()
  | .output value, _ => (StepsMatch.valueOf value).bind fun value => .emit (shown value)
  | .assign isGlobal name value, _ =>
    (StepsMatch.valueOf value).bind fun value => .get fun _ _ scenes =>
      .setFrames (assignIn_match isGlobal name value scenes.frames)
  | .include names optional, own => renderInclude_match around own optional
  | .extends _, _ => .throw _ _
  | .leave, _ => .signalLoop _ _
  | .next, _ => .signalLoop _ _
  -- The body and what stands in its place mention no other names than the loop.
  | .each key value container body empty, own => by
    rw [Node.mentions] at own
    obtain ⟨ownBody, ownEmpty⟩ := List.forall_mem_append.mp own
    refine (StepsMatch.itemsFor key container).bind fun items => ?_
    cases items with
    | nil => exact renderAll_match around empty ownEmpty
    | cons item rest =>
      exact .renderLoop around.nowhere key value _ (renderAll_match around body ownBody)
  -- So it is with the arms of a choice.
  | .choose arms otherwise, own => by
    rw [Node.mentions] at own
    obtain ⟨ownArms, ownOtherwise⟩ := List.forall_mem_append.mp own
    exact renderArms_match around (renderAll_match around otherwise ownOtherwise) arms ownArms
  | .block name body, own => around.block name _ _ (renderAll_match around body own)

/-- Nodes render the same when the templates that they mention belong to themselves. -/
theorem renderAll_match (around : SurroundingsMatch pairs surroundings other) :
    (nodes : List Node) → (∀ name ∈ mentionsOf nodes, pairs name name) →
      StepsMatch pairs (renderAll surroundings nodes) (renderAll other nodes)
  | [], _ => .pure ()
  | node :: rest, own => by
    rw [mentionsOf] at own
    obtain ⟨ownNode, ownRest⟩ := List.forall_mem_append.mp own
    -- The rest is left out when the node has told the loop around it to go on or to end.
    refine (node.render_match around ownNode).bind fun _ => .get fun scene other scenes => ?_
    rw [signalOf_eq scenes.frames]
    split
    · exact renderAll_match around rest ownRest
    · exact .pure ()

/-- Arms render the same when the templates that they mention belong to themselves. -/
theorem renderArms_match (around : SurroundingsMatch pairs surroundings other)
    {otherwise otherOtherwise : Render Unit}
    (ends : StepsMatch pairs otherwise otherOtherwise) :
    (arms : List (Expression × List Node)) → (∀ name ∈ mentionsOfArms arms, pairs name name) →
      StepsMatch pairs (renderArms surroundings otherwise arms)
        (renderArms other otherOtherwise arms)
  | [], _ => ends
  | (condition, body) :: rest, own => by
    rw [mentionsOfArms] at own
    obtain ⟨ownBody, ownRest⟩ := List.forall_mem_append.mp own
    refine (StepsMatch.truthOf condition).bind fun holds => ?_
    cases holds
    · exact renderArms_match around ends rest ownRest
    · exact renderAll_match around body ownBody

end

end Nodes

/-! ### Libraries -/

namespace Library

/-- The entry of a template that extends no other one. -/
def rooted (name : String) (nodes : List Node) : Entry :=
  ⟨⟨name, none, nodes, blocksOf nodes⟩, [],
    (blocksOf nodes).map fun (block, body) => (block, [(name, body)])⟩

/-- Two libraries match under names that belong together: there stand no templates, or templates with
the same nodes, which mention only names that belong to themselves. -/
structure Matches (pairs : String → String → Prop) (library other : Library) : Prop where
  nowhere : pairs "" ""
  entries : ∀ name otherName, pairs name otherName →
    (library.find? name = none ∧ other.find? otherName = none) ∨
      ∃ nodes, library.find? name = some (rooted name nodes) ∧
        other.find? otherName = some (rooted otherName nodes) ∧
          ∀ mentioned ∈ mentionsOf nodes, pairs mentioned mentioned

/-- Where no template stands there is no body of a block. -/
theorem bodyAlong_missing {library : Library} {name : String} (missing : library.find? name = none)
    (block : String) : library.bodyAlong block 0 [name] = none := by
  rw [bodyAlong, missing]
  rfl

/-- The body of a block is that of the template where rendering stands. -/
theorem bodyAlong_rooted {library : Library} {name : String} {nodes : List Node}
    (known : library.find? name = some (rooted name nodes)) (block : String) :
    library.bodyAlong block 0 [name] = ((blocksOf nodes).lookup block).map fun body => (body, 0) := by
  -- Each block of the entry has one body, that of the template itself.
  have blocks : (rooted name nodes).blocks.lookup block =
      ((blocksOf nodes).lookup block).map fun body => [(name, body)] := by
    unfold rooted
    dsimp only
    induction blocksOf nodes with
    | nil => rfl
    | cons first rest ih =>
      obtain ⟨own, body⟩ := first
      simp only [List.map_cons, List.lookup_cons]
      cases block == own
      · exact ih
      · rfl
  rw [bodyAlong, known, Option.bind_some, blocks]
  cases (blocksOf nodes).lookup block <;> rfl

variable {library other : Library}

/-- Libraries that match surround templates alike. -/
theorem Matches.surroundings (libraries : Matches pairs library other) (room : Nat) :
    SurroundingsMatch pairs (library.surroundings room) (other.surroundings room) := by
  -- By induction on how deep templates may still include each other.
  induction room with
  | zero =>
    exact ⟨libraries.nowhere, fun _ _ => .some (.throw _ _), fun _ _ _ _ => .throw _ _⟩
  | succ room ih =>
    refine ⟨libraries.nowhere, fun name own => ?_, fun name standing otherStanding stand => ?_⟩
    · -- What is included is rendered in a frame of its own.
      unfold Library.surroundings
      dsimp only
      rcases libraries.entries name name own with ⟨here, there⟩ | ⟨nodes, here, there, mentioned⟩
      · rw [here, there]
        exact .none
      · rw [here, there]
        refine .some (.get fun _ _ scenes => ?_)
        refine (StepsMatch.setFrames (.cons ⟨own, rfl, rfl⟩ scenes.frames)).bind fun _ => ?_
        refine (renderAll_match ih nodes mentioned).bind fun _ => ?_
        exact .get fun _ _ scenes => .setFrames (List.forall₂_drop 1 scenes.frames)
    · -- The body of a block is looked for in the template where rendering stands.
      refine .get fun scene otherScene scenes => ?_
      have pair := scenes.template libraries.nowhere
      dsimp only
      rcases libraries.entries _ _ pair with ⟨here, there⟩ | ⟨nodes, here, there, mentioned⟩
      · simp only [here, there, Option.map_none, Option.getD_none, bodyAlong_missing]
        exact stand
      · simp only [here, there, Option.map_some, Option.getD_some]
        have first : (rooted scene.template nodes).parents = [] := rfl
        have second : (rooted otherScene.template nodes).parents = [] := rfl
        rw [first, second, bodyAlong_rooted here, bodyAlong_rooted there]
        cases found : (blocksOf nodes).lookup name with
        | none => exact stand
        | some body =>
          obtain ⟨_, _, whole, -⟩ := List.lookup_eq_some_iff.mp found
          have member : (name, body) ∈ blocksOf nodes := by simp [whole]
          refine (StepsMatch.modify fun _ _ scenes => ?_).bind fun _ =>
            renderAll_match ih body fun _ within => mentioned _ (mentionsOf_subset nodes member within)
          exact { scenes with lastBlock := rfl }

/-- Templates that belong together render alike in libraries that match. -/
theorem Matches.render_agree (libraries : Matches pairs library other) {name otherName : String}
    (pair : pairs name otherName) (functions : Functions) (given : List (String × Json)) :
    Agree (library.renderWith functions name given) (other.renderWith functions otherName given) := by
  unfold Library.renderWith
  rcases libraries.entries name otherName pair with ⟨here, there⟩ | ⟨nodes, here, there, mentioned⟩
  · rw [here, there]
    exact .error _ _
  · rw [here, there]
    have scenes : ScenesMatch pairs ⟨[⟨name, [], none⟩], given, "", none, functions⟩
        ⟨[⟨otherName, [], none⟩], given, "", none, functions⟩ :=
      ⟨.cons ⟨pair, rfl, rfl⟩ .nil, rfl, rfl, rfl, rfl⟩
    have runs := renderAll_match (libraries.surroundings deepest) nodes mentioned _ _ scenes
    -- Neither entry has parents, so both begin with their own nodes.
    simp only [rooted, List.getLast?_nil, Option.bind_none, Option.getD_none]
    generalize (renderAll (library.surroundings deepest) nodes).run.run _ = first at runs ⊢
    generalize (renderAll (other.surroundings deepest) nodes).run.run _ = second at runs ⊢
    cases runs with
    | ok _ scenes =>
      dsimp only
      rw [scenes.output]
      exact .ok _
    | error => exact .error _ _

end Library

end UdsCatalog.Template
