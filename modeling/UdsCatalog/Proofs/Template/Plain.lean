import Mathlib
import UdsCatalog.Proofs.Steps
import UdsCatalog.Template.Library

/-!
Plain templates: texts, values printed as they are, loops over items, and choices between truth
values. What a plain template prints is a function of what is in sight, and rendering prints just
that.
-/

namespace UdsCatalog.Template

/-- A way to a value: a name in sight, and the field of its value if one is meant. -/
structure Way where
  root : String
  key : Option String

/-- A node of a plain template. -/
inductive Plain where
  | text (text : String)
  | put (way : Way)
  /-- A loop that gives each item of an array a name. -/
  | each (name : String) (way : Way) (body : List Plain)
  /-- The body of the first arm whose way leads to the value `true`. -/
  | choose (arms : List (Way × List Plain)) (otherwise : List Plain)

/-- What ways start from: the items of the loops around, the innermost first, and the values given
from outside. -/
structure Sight where
  bound : List (String × Json)
  given : List (String × Json)

namespace Way

/-- The way as a reference writes it. -/
def text (way : Way) : String :=
  match way.key with
  | none => way.root
  | some key => way.root ++ "." ++ key

/-- The way as an expression by itself. -/
def expression (way : Way) : Expression := (Core.reference ⟨way.text⟩).bare

/-- The steps behind the name. -/
@[simp] def keys (way : Way) : List String := way.key.toList

/-- A character that is no sign of a reference. -/
def isNameChar (c : Char) : Bool := c.isAlphanum || c == '_'

/-- The name and the field are words, and the name is not that of what a loop tells of itself. -/
def isNamed (way : Way) : Bool :=
  way.root.toList.all isNameChar && way.root != "loop" &&
    -- An empty field would be no step at all.
    way.key.all fun key => key.toList.all isNameChar && !key.toList.isEmpty

end Way

namespace Sight

/-- What is seen by the name of an item. -/
@[simp] def bind (sight : Sight) (name : String) (value : Json) : Sight :=
  { sight with bound := (name, value) :: sight.bound }

/-- The value that a way leads to, from the innermost item that it leads anywhere from. -/
def value? (sight : Sight) (way : Way) : Option Json :=
  match sight.bound.findSome? fun (name, value) =>
      if way.root == name then follow? way.keys value else none with
  | some value => some value
  | none => (sight.given.lookup way.root).bind (follow? way.keys)

end Sight

namespace Sight

/-- An item is asked for the ways of its name, and what it does not have is looked for around. -/
@[simp] theorem value?_cons (name : String) (item : Json) (bound given : List (String × Json))
    (way : Way) :
    value? ⟨(name, item) :: bound, given⟩ way =
      if way.root = name then (follow? way.keys item).or (value? ⟨bound, given⟩ way)
      else value? ⟨bound, given⟩ way := by
  -- The innermost item is asked first, and only when it leads nowhere the others are.
  rw [value?, List.findSome?_cons]
  by_cases own : way.root = name
  · cases found : follow? way.keys item <;>
      simp [-Way.keys, own, found, value?]
  · simp [own, value?]

/-- Without items only what was given is there. -/
@[simp] theorem value?_nil (given : List (String × Json)) (way : Way) :
    value? ⟨[], given⟩ way = (given.lookup way.root).bind (follow? way.keys) := rfl

end Sight

/-- No step leads to the value itself. -/
@[simp] theorem follow?_nil (value : Json) : follow? [] value = some value := rfl

/-- One step into an object leads to its field. -/
@[simp] theorem follow?_field (key : String) (fields : List (String × Json)) :
    follow? [key] (.object fields) = fields.lookup key := by
  rw [follow?]
  cases fields.lookup key <;> rfl

/-- The first field has the name, or it is looked for behind it. -/
@[simp] theorem lookup_cons_eq (name key : String) (value : Json) (rest : List (String × Json)) :
    ((key, value) :: rest).lookup name = if name = key then some value else rest.lookup name := by
  -- Names are compared either way round.
  rw [List.lookup_cons]
  by_cases same : name = key
  · simp [same]
  · simp [same, beq_false_of_ne same]

/-- The text of a value that plain templates print: a text or a whole number. -/
@[simp] def printed? : Json → Option String
  | .text text => some text
  | .number (.int value) => some (toString value)
  | _ => none

/-- The texts of all items, one behind the other. -/
def joinEach (text? : Json → Option String) : List Json → Option String
  | [] => some ""
  | item :: rest => do return (← text? item) ++ (← joinEach text? rest)

/-- What plain templates print is shown as it is. -/
theorem shown_eq {value : Json} {text : String} (printed : printed? value = some text) :
    shown value = text := by
  -- Of all values only texts and whole numbers are printed, and these are shown as they are.
  cases value with
  | text => simpa [printed?, shown] using printed
  | number number => cases number <;> simp_all [printed?, shown]
  | _ => simp [printed?] at printed

mutual

/-- The text that a node prints; none when a value is missing or of another kind than its place asks
for. -/
@[simp] def Plain.text? (sight : Sight) : Plain → Option String
  | .text text => some text
  | .put way => (sight.value? way).bind printed?
  | .each name way body =>
    -- Each turn sees its own item in front of what is in sight around the loop.
    match sight.value? way with
    | some (.array items) => joinEach (fun item => textOf? (sight.bind name item) body) items
    | _ => none
  | .choose arms otherwise => textOfArms? sight (textOf? sight otherwise) arms

/-- The text that nodes print. -/
@[simp] def textOf? (sight : Sight) : List Plain → Option String
  | [] => some ""
  | node :: rest => do return (← node.text? sight) ++ (← textOf? sight rest)

/-- The text of the first arm whose condition is true. -/
@[simp] def textOfArms? (sight : Sight) (otherwise : Option String) :
    List (Way × List Plain) → Option String
  | [] => otherwise
  | (way, body) :: rest =>
    match sight.value? way with
    | some (.bool true) => textOf? sight body
    | some (.bool false) => textOfArms? sight otherwise rest
    | _ => none

end

/-- Nodes one behind the other print their texts one behind the other. -/
theorem textOf?_append (sight : Sight) (first second : List Plain) :
    textOf? sight (first ++ second) =
      do return (← textOf? sight first) ++ (← textOf? sight second) := by
  -- When one of the texts is missing, neither side prints anything.
  induction first with
  | nil => simp
  | cons node rest ih =>
    rw [List.cons_append, textOf?, textOf?, ih]
    cases node.text? sight <;> cases textOf? sight rest <;> cases textOf? sight second <;>
      simp [String.append_assoc]

mutual

/-- A plain node as a node of templates. -/
def Plain.node : Plain → Node
  | .text text => .text text
  | .put way => .output way.expression
  | .each name way body => .each none name way.expression (nodesOf body) []
  | .choose arms otherwise => .choose (armsOf arms) (nodesOf otherwise)

/-- Plain nodes as nodes of templates. -/
def nodesOf : List Plain → List Node
  | [] => []
  | node :: rest => node.node :: nodesOf rest

/-- Plain arms as arms of templates. -/
def armsOf : List (Way × List Plain) → List (Expression × List Node)
  | [] => []
  | (way, body) :: rest => (way.expression, nodesOf body) :: armsOf rest

end

mutual

/-- All ways of a node are named. -/
def Plain.isNamed : Plain → Bool
  | .text _ => true
  | .put way => way.isNamed
  | .each _ way body => way.isNamed && areNamed body
  | .choose arms otherwise => armsAreNamed arms && areNamed otherwise

/-- All ways of nodes are named. -/
def areNamed : List Plain → Bool
  | [] => true
  | node :: rest => node.isNamed && areNamed rest

/-- All ways of arms are named. -/
def armsAreNamed : List (Way × List Plain) → Bool
  | [] => true
  | (way, body) :: rest => way.isNamed && areNamed body && armsAreNamed rest

end

namespace Way

/-- What stands behind the first point of the way, if anything. -/
def tail (way : Way) : String := way.key.getD ""

/-- Characters of words differ from all signs. -/
theorem ne_of_isNameChar {c sign : Char} (word : isNameChar c = true)
    (other : isNameChar sign = false) : c ≠ sign := by
  rintro rfl
  rw [word] at other
  cases other

/-- The parts of a named way are words, and the name is not that of what a loop tells of itself. -/
theorem words_of_isNamed {way : Way} (named : way.isNamed = true) :
    (∀ c ∈ way.root.toList, isNameChar c = true) ∧ way.root ≠ "loop" ∧
      ∀ key, way.key = some key → (∀ c ∈ key.toList, isNameChar c = true) ∧ key.toList ≠ [] := by
  obtain ⟨root, key⟩ := way
  cases key <;> simpa [isNamed, and_assoc] using named

/-- In a text without quotes and points there is only one step. -/
theorem stepsFrom_words {chars : List Char} (words : ∀ c ∈ chars, isNameChar c = true)
    (taken : List Char) :
    Reference.stepsFrom false false taken chars = Reference.stepOf (chars.reverse ++ taken) := by
  -- No character ends the step, so all of them are taken into it, the last one in front.
  induction chars generalizing taken with
  | nil => rfl
  | cons c rest ih =>
    obtain ⟨word, words⟩ := List.forall_mem_cons.mp words
    have double : c ≠ '"' := ne_of_isNameChar word rfl
    have single : c ≠ '\x27' := ne_of_isNameChar word rfl
    have point : c ≠ '.' := ne_of_isNameChar word rfl
    simp [Reference.stepsFrom, double, single, point, ih words]

/-- The steps of a named way are its field. -/
theorem steps_tail {way : Way} (named : way.isNamed = true) :
    Reference.steps way.tail = way.keys := by
  -- Without a field nothing is left to walk, and a field is a single step.
  obtain ⟨-, -, words⟩ := words_of_isNamed named
  obtain ⟨root, key⟩ := way
  cases key with
  | none => rfl
  | some key =>
    obtain ⟨words, filled⟩ := words key rfl
    simp [Reference.steps, tail, keys, stepsFrom_words words, Reference.stepOf, filled]

/-- A named way is cut at its point. -/
theorem rootAndTail_text {way : Way} (named : way.isNamed = true) :
    Reference.rootAndTail way.text.toList = (way.root, way.tail) := by
  -- The name has no point of its own, so the first point is the one in front of the field.
  obtain ⟨words, -, -⟩ := words_of_isNamed named
  have noPoint : ∀ c ∈ way.root.toList, (c != '.') = true := by
    intro c member
    have apart : c ≠ '.' := ne_of_isNameChar (words c member) rfl
    simpa using apart
  obtain ⟨root, key⟩ := way
  cases key with
  | none =>
    have whole : root.toList.takeWhile (· != '.') = root.toList :=
      List.takeWhile_eq_self_iff.mpr noPoint
    have nothing : root.toList.dropWhile (· != '.') = [] :=
      List.dropWhile_eq_nil_iff.mpr noPoint
    simp [Reference.rootAndTail, text, tail, whole, nothing]
  | some key =>
    simp [Reference.rootAndTail, text, tail, List.takeWhile_append_of_pos noPoint,
      List.dropWhile_append_of_pos noPoint]

/-- A named way has no brackets. -/
theorem not_contains_bracket {way : Way} (named : way.isNamed = true) :
    way.text.toList.contains '[' = false := by
  -- Neither the name nor the field has a bracket, and a point is none.
  obtain ⟨rootWords, -, keyWords⟩ := words_of_isNamed named
  have outside : ∀ chars : List Char, (∀ c ∈ chars, isNameChar c = true) → '[' ∉ chars :=
    fun chars words member => absurd rfl (ne_of_isNameChar (words _ member) rfl)
  obtain ⟨root, key⟩ := way
  cases key with
  | none => simpa [text] using outside _ rootWords
  | some key =>
    simpa [text] using ⟨outside _ rootWords, outside _ (keyWords key rfl).1⟩

end Way

/-- Frames show the items of the loops around: the innermost frame is a turn of the innermost loop,
and the outermost one is that of the template. Names of their own they have none. -/
inductive Shows : List Frame → List (String × Json) → Prop
  | template (name : String) : Shows [⟨name, [], none⟩] []
  | turn {frames : List Frame} {bound : List (String × Json)} (template name key : String)
      (value : Json) (index count : Nat) (around : Shows frames bound) :
      Shows (⟨template, [], some ⟨name, none, key, value, index, count, .goOn⟩⟩ :: frames)
        ((name, value) :: bound)

/-- Nothing tells the loops to leave. -/
theorem Shows.signalOf {frames : List Frame} {bound : List (String × Json)}
    (shows_ : Shows frames bound) : signalOf frames = .goOn := by
  cases shows_ <;> rfl

/-- What frames know under a name is what the items know. -/
theorem Shows.findSome? {frames : List Frame} {bound : List (String × Json)}
    (shows_ : Shows frames bound) {root : String} (own : root ≠ "loop") (tail : String) :
    frames.findSome? (·.find? root tail) = bound.findSome? fun (name, value) =>
      if root == name then follow? (Reference.steps tail) value else none := by
  -- Frames and items are asked in the same order, and the frame of the template knows nothing.
  induction shows_ with
  | template name => rfl
  | turn template name key value index count _ ih =>
    have turn : Frame.find? ⟨template, [], some ⟨name, none, key, value, index, count, .goOn⟩⟩
        root tail =
        if root == name then follow? (Reference.steps tail) value else none := by
      simp [Frame.find?, LoopState.find?, own]
    rw [List.findSome?_cons, turn, ih, List.findSome?_cons]

/-- A scene leads a named way to the value that is in sight. -/
theorem resolve_eq {scene : Scene} {sight : Sight} (shows_ : Shows scene.frames sight.bound)
    (given : scene.given = sight.given) {way : Way} (named : way.isNamed = true) {value : Json}
    (found : sight.value? way = some value) : scene.resolve ⟨way.text⟩ = .ok value := by
  -- Without brackets the way is walked from its name, through the frames and what was given.
  obtain ⟨-, own, -⟩ := Way.words_of_isNamed named
  have seen : scene.find? way.text.toList = some value := by
    rw [Scene.find?, Way.rootAndTail_text named]
    simp only [shows_.findSome? own, Way.steps_tail named, given]
    exact found
  simp only [Scene.resolve, Scene.valueAt, Way.not_contains_bracket named, seen]
  rfl

/-- The scene with more output. -/
def Scene.print (scene : Scene) (text : String) : Scene :=
  { scene with output := scene.output ++ text }

/-- An empty text changes nothing. -/
theorem Scene.print_empty (scene : Scene) : scene.print "" = scene := by
  rw [Scene.print, String.append_empty]

/-- Two texts are printed as one. -/
theorem Scene.print_print (scene : Scene) (first second : String) :
    (scene.print first).print second = scene.print (first ++ second) := by
  simp only [Scene.print, String.append_assoc]

/-- Nothing is done. -/
theorem run_pure (scene : Scene) : (pure () : Render Unit).run.run scene = (.ok (), scene) := rfl

/-- The scene is read as it is. -/
theorem run_get (scene : Scene) : (get : Render Scene).run.run scene = (.ok scene, scene) := rfl

/-- Text goes to the output. -/
theorem run_emit (text : String) (scene : Scene) :
    (emit text).run.run scene = (.ok (), scene.print text) := rfl

/-- Frames are put in place. -/
theorem run_setFrames (frames : List Frame) (scene : Scene) :
    (setFrames frames).run.run scene = (.ok (), { scene with frames }) := rfl

/-- An expression that is a way by itself has the value that the way leads to. -/
theorem evaluate_eq {scene : Scene} {way : Way} {value : Json}
    (found : scene.resolve ⟨way.text⟩ = .ok value) :
    way.expression.evaluate scene = .ok value := by
  -- There is no negation and no filter, so what is behind the reference is the value.
  simp [Expression.evaluate, Way.expression, Core.bare, Expression.meaning, Core.meaning, changes,
    meaningOfReference, valueBehind, applyAll, found, Bind.bind, Except.bind, Pure.pure,
    Except.pure]

/-- The value of a way that leads somewhere. -/
theorem run_valueOf {scene : Scene} {way : Way} {value : Json}
    (found : scene.resolve ⟨way.text⟩ = .ok value) :
    (valueOf way.expression).run.run scene = (.ok value, scene) := by
  rw [valueOf, run_bind (run_get scene), evaluate_eq found]
  rfl

/-- The truth of a way that leads to a truth value. -/
theorem run_truthOf {scene : Scene} {way : Way} {truth : Bool}
    (found : scene.resolve ⟨way.text⟩ = .ok (.bool truth)) :
    (truthOf way.expression).run.run scene = (.ok truth, scene) := by
  -- A truth value stands for itself.
  have holds : way.expression.holds scene = .ok truth := by
    simp [Expression.holds, Way.expression, Core.bare, Expression.meaning, Core.meaning, changes,
      meaningOfReference, valueBehind, applyAll, found, isTrue, Bind.bind, Except.bind, Pure.pure,
      Except.pure]
  rw [truthOf, run_bind (run_get scene), holds]
  rfl

/-- The items of a way that leads to an array. -/
theorem run_itemsFor {scene : Scene} {way : Way} {items : List Json}
    (found : scene.resolve ⟨way.text⟩ = .ok (.array items)) :
    (itemsFor none way.expression).run.run scene =
      (.ok (items.map fun item => ("", item)), scene) := by
  rw [itemsFor, run_bind (run_get scene), evaluate_eq found]
  rfl

/-- The frame of a turn of a loop over an array. -/
def turnFrame (template name : String) (value : Json) (index count : Nat) : Frame :=
  ⟨template, [], some ⟨name, none, "", value, index, count, .goOn⟩⟩

/-- A turn whose body prints a text is followed by the others, from the frame of the turn. -/
theorem run_turn {template name text : String} {index count : Nat} {outer frames : List Frame}
    {body : Render Unit} {item : Json} {given : List (String × Json)} {output : String}
    {lastBlock : Option (String × Nat)} {functions : Functions}
    (around : (if index == 0 then outer else frames.drop 1) = outer)
    (printed : body.run.run
        ⟨turnFrame template name item index count :: outer, given, output, lastBlock, functions⟩ =
      (.ok (),
        ⟨turnFrame template name item index count :: outer, given, output ++ text, lastBlock, functions⟩))
    (rest : List (String × Json)) :
    (turns name none count outer template body index (("", item) :: rest)).run.run
        ⟨frames, given, output, lastBlock, functions⟩ =
      (turns name none count outer template body (index + 1) rest).run.run
        ⟨turnFrame template name item index count :: outer, given, output ++ text, lastBlock,
          functions⟩ := by
  -- The frame of the turn is put in place, the body runs in it, and the frame is read again.
  rw [turns, run_bind (run_get _)]
  simp only [around]
  rw [run_bind (run_setFrames _ _)]
  refine (run_bind printed).trans ?_
  rw [run_bind (run_get _)]
  rfl

/-- The turns of a loop print what its body prints for each item. -/
theorem run_turns {template name : String} {count : Nat} {outer : List Frame} {body : Render Unit}
    {text? : Json → Option String} {given : List (String × Json)}
    {lastBlock : Option (String × Nat)} {functions : Functions}
    (prints : ∀ item text, text? item = some text → ∀ index output,
      let frames := turnFrame template name item index count :: outer
      body.run.run ⟨frames, given, output, lastBlock, functions⟩ =
        (.ok (), ⟨frames, given, output ++ text, lastBlock, functions⟩))
    {first : Json} {rest : List Json} {text : String}
    (joined : joinEach text? (first :: rest) = some text) {index : Nat} {frames : List Frame}
    (around : (if index == 0 then outer else frames.drop 1) = outer) (output : String) :
    ∃ frame, (turns name none count outer template body index
        ((first :: rest).map fun item => ("", item))).run.run
          ⟨frames, given, output, lastBlock, functions⟩ =
      (.ok (), ⟨frame :: outer, given, output ++ text, lastBlock, functions⟩) := by
  -- Only the first turn begins without the frame of an earlier one.
  induction rest generalizing first text index frames output with
  | nil =>
    -- The last turn is followed by none, so its frame is the one that stays.
    obtain ⟨head, printed, rfl⟩ : ∃ head, text? first = some head ∧ head = text := by
      simpa [joinEach] using joined
    refine ⟨turnFrame template name first index count, ?_⟩
    rw [List.map_cons, run_turn around (prints first head printed index output)]
    rfl
  | cons second rest ih =>
    obtain ⟨head, printed, tail, others, rfl⟩ : ∃ head, text? first = some head ∧
        ∃ tail, joinEach text? (second :: rest) = some tail ∧ head ++ tail = text := by
      rw [joinEach] at joined
      simpa [Option.bind_eq_some_iff] using joined
    -- The other turns begin from the frame of this one, which they drop.
    have behind : (if index + 1 == 0 then outer
        else (turnFrame template name first index count :: outer).drop 1) = outer := by simp
    obtain ⟨frame, rendered⟩ := ih others behind (output ++ head)
    refine ⟨frame, ?_⟩
    rw [List.map_cons, run_turn around (prints first head printed index output), rendered,
      String.append_assoc]

/-- A loop with items prints what its body prints for each of them, and leaves no frame behind. -/
theorem run_renderLoop {name text : String} {body : Render Unit} {text? : Json → Option String}
    {scene : Scene}
    (prints : ∀ item text, text? item = some text → ∀ index count output,
      let inner : Scene :=
        { scene with
          frames := turnFrame scene.template name item index count :: scene.frames, output }
      body.run.run inner = (.ok (), inner.print text))
    {first : Json} {rest : List Json} (joined : joinEach text? (first :: rest) = some text) :
    (renderLoop none name ((first :: rest).map fun item => ("", item)) body).run.run scene =
      (.ok (), scene.print text) := by
  -- The turns leave their last frame in place, and the loop puts the frames around back.
  obtain ⟨frame, rendered⟩ := run_turns
    (fun item text printed index output => prints item text printed index _ output) joined
    (by simp : (if 0 == 0 then scene.frames else scene.frames.drop 1) = scene.frames) scene.output
  rw [renderLoop, run_bind (run_get _), run_bind rendered, run_bind (run_get _), run_setFrames]
  rfl

mutual

/-- Rendering a plain node prints its text. -/
theorem Plain.render_node (surroundings : Surroundings) {sight : Sight} {text : String} :
    (node : Plain) → node.isNamed = true → node.text? sight = some text →
      ∀ scene : Scene, Shows scene.frames sight.bound → scene.given = sight.given →
        (node.node.render surroundings).run.run scene = (.ok (), scene.print text)
  | .text text, _, printed, scene, _, _ => by
    rw [Plain.text?, Option.some.injEq] at printed
    rw [Plain.node, Node.render, run_emit, printed]
  | .put way, named, printed, scene, shows_, given => by
    rw [Plain.text?, Option.bind_eq_some_iff] at printed
    obtain ⟨value, found, printed⟩ := printed
    rw [Plain.node, Node.render, run_bind (run_valueOf (resolve_eq shows_ given named found)),
      run_emit, shown_eq printed]
  | .each name way body, named, printed, scene, shows_, given => by
    rw [Plain.isNamed, Bool.and_eq_true] at named
    obtain ⟨items, found, joined⟩ : ∃ items, sight.value? way = some (.array items) ∧
        joinEach (fun item => textOf? (sight.bind name item) body) items = some text := by
      rw [Plain.text?] at printed
      split at printed
      · exact ⟨_, ‹_›, printed⟩
      · cases printed
    rw [Plain.node, Node.render, run_bind (run_itemsFor (resolve_eq shows_ given named.1 found))]
    cases items with
    | nil =>
      -- Without items the nodes in place of the loop are rendered, and there are none.
      rw [joinEach, Option.some.injEq] at joined
      rw [← joined, Scene.print_empty, List.map_nil]
      rw [renderAll, run_pure]
    | cons first rest =>
      -- Each turn sees the item of its own in front of what is in sight around the loop.
      refine run_renderLoop (fun item text printed index count output => ?_) joined
      exact render_nodes surroundings body named.2 printed _ (.turn _ _ _ _ _ _ shows_) given
  | .choose arms otherwise, named, printed, scene, shows_, given => by
    rw [Plain.isNamed, Bool.and_eq_true] at named
    rw [Plain.text?] at printed
    rw [Plain.node, Node.render]
    -- What is printed otherwise stands for the end of the arms.
    exact render_arms surroundings arms named.1 printed scene shows_ given fun text printed =>
      render_nodes surroundings otherwise named.2 printed scene shows_ given

/-- Rendering plain nodes prints their text. -/
theorem render_nodes (surroundings : Surroundings) {sight : Sight} {text : String} :
    (nodes : List Plain) → areNamed nodes = true → textOf? sight nodes = some text →
      ∀ scene : Scene, Shows scene.frames sight.bound → scene.given = sight.given →
        (renderAll surroundings (nodesOf nodes)).run.run scene = (.ok (), scene.print text)
  | [], _, printed, scene, _, _ => by
    -- Nothing is printed, and the scene stays as it is.
    rw [textOf?, Option.some.injEq] at printed
    rw [← printed, Scene.print_empty, nodesOf, renderAll, run_pure]
  | node :: rest, named, printed, scene, shows_, given => by
    rw [areNamed, Bool.and_eq_true] at named
    obtain ⟨head, first, tail, others, rfl⟩ : ∃ head, node.text? sight = some head ∧
        ∃ tail, textOf? sight rest = some tail ∧ head ++ tail = text := by
      rw [textOf?] at printed
      simpa [Option.bind_eq_some_iff] using printed
    -- The head prints its text, no loop is told to leave, and the rest goes on from there.
    rw [nodesOf, renderAll,
      run_bind (node.render_node surroundings named.1 first scene shows_ given),
      run_bind (run_get _)]
    have on : signalOf (scene.print head).frames = .goOn := shows_.signalOf
    simp only [on]
    rw [render_nodes surroundings rest named.2 others (scene.print head) shows_ given,
      Scene.print_print]

/-- Rendering plain arms prints the text of the first one that is true, or what is printed
otherwise. -/
theorem render_arms (surroundings : Surroundings) {sight : Sight} {text : String}
    {otherwise : Option String} {last : Render Unit} :
    (arms : List (Way × List Plain)) → armsAreNamed arms = true →
      textOfArms? sight otherwise arms = some text →
      ∀ scene : Scene, Shows scene.frames sight.bound → scene.given = sight.given →
        (∀ text, otherwise = some text → last.run.run scene = (.ok (), scene.print text)) →
        (renderArms surroundings last (armsOf arms)).run.run scene = (.ok (), scene.print text)
  | [], _, printed, scene, _, _, prints => by
    rw [textOfArms?] at printed
    rw [armsOf, renderArms]
    exact prints text printed
  | (way, body) :: rest, named, printed, scene, shows_, given, prints => by
    simp only [armsAreNamed, Bool.and_eq_true] at named
    obtain ⟨⟨wayNamed, bodyNamed⟩, restNamed⟩ := named
    rw [textOfArms?] at printed
    rw [armsOf, renderArms]
    split at printed
    case h_1 found =>
      -- The condition is true, and no other arm is looked at.
      rw [run_bind (run_truthOf (resolve_eq shows_ given wayNamed found))]
      exact render_nodes surroundings body bodyNamed printed scene shows_ given
    case h_2 found =>
      -- The condition is false, and the other arms decide.
      rw [run_bind (run_truthOf (resolve_eq shows_ given wayNamed found))]
      exact render_arms surroundings rest restNamed printed scene shows_ given prints
    case h_3 => cases printed

end

end UdsCatalog.Template
