import UdsCatalog.Template.Arithmetic
import UdsCatalog.Template.Filter
import UdsCatalog.Template.Scene

/-!
What expressions mean in a scene. An expression can be wanted as a value, as a condition and as a
number, and the three do not always agree on what is an error.
-/

namespace UdsCatalog.Template

/-- What an expression means. -/
structure Meaning where
  value : Except Trouble Json
  truth : Except Trouble Bool
  number : Computed

/-- A filter in a scene: its name and the values of its arguments. -/
structure Change where
  name : String
  arguments : List (Except Trouble Json)

/-- Applies filters one after the other. -/
def applyAll : List Change → Json → Except Trouble Json
  | [], value => .ok value
  | change :: rest, value =>
    match applyFilter change.name change.arguments value with
    | .ok changed => applyAll rest changed
    -- The filters behind a failed one are not applied.
    | .error trouble => .error trouble

/-- A condition that may be negated. -/
def negateIf (negated : Bool) (truth : Except Trouble Bool) : Except Trouble Bool :=
  truth.map fun holds => if negated then !holds else holds

/-- The value of a number; what has none is told as a text. Of a trouble only the outermost part is told. -/
def valueOfNumber (number : Computed) : Except Trouble Json :=
  match number with
  | .ok (some n) => .ok (.number n)
  | .ok none => .ok (.text "NaN")
  -- A computation is an end of its own, and the chain stops there.
  | .error trouble => .error trouble.alone

/-- The number that a reference leads to. -/
def numberOf (text : String) : Json → Computed
  | .number n => .ok (some n)
  | _ => .error (.noNumber text)

/-- The meaning of a core without filters and negation. -/
def Meaning.ofValue (value : Json) (number : Computed) : Meaning :=
  ⟨.ok value, .ok (isTrue value), number⟩

/-- The meaning of a condition. -/
def Meaning.ofTruth (truth : Except Trouble Bool) : Meaning :=
  -- A condition is never a number, even if it is wrong.
  ⟨truth.map .bool, truth, .error (.nonNumber .condition)⟩

/-- The meaning of a computation. What has no number counts as false. -/
def Meaning.ofNumber (number : Computed) : Meaning :=
  ⟨valueOfNumber number, number.map fun n => n.any isNonzero, number⟩

/-- Compares two numbers that must both be there. -/
def comparedNumbers (op : LogicOp) (left right : Meaning) : Except Trouble Bool := do
  match ← left.number, ← right.number with
  | some l, some r => return op.compareNumbers l r
  -- What has no number is neither less nor greater.
  | _, _ => .error .comparedToNothing

/-- Compares two values. Neither equality nor its opposite holds between a number and something else. -/
def comparedValues (wanted : Bool) (left right : Meaning) : Except Trouble (Option Bool) := do
  let l ← left.value
  let r ← right.value
  return (comparedEqual? l r).map (· == wanted)

/-- The truth of two conditions or values with an operator between them, under a negation. -/
def logicTruth (negated : Bool) (left : Meaning) (op : LogicOp) (right : Meaning) :
    Except Trouble Bool :=
  match op with
  -- The right side is only evaluated where the left one does not decide.
  | .both => negateIf negated (do if ← left.truth then right.truth else return false)
  | .either => negateIf negated (do if ← left.truth then return true else right.truth)
  | .equal | .unequal => do
    -- A number and something else: the answer is no even under a negation.
    match ← comparedValues (op == .equal) left right with
    | none => return false
    | some holds => return if negated then !holds else holds
  | op => negateIf negated (comparedNumbers op left right)

/-- The value of an expression: the core through its filters, then the negation. -/
def valueBehind (core : Except Trouble Json) (negated : Bool) (changes : List Change) :
    Except Trouble Json := do
  let value ← applyAll changes (← core)
  -- The negation comes behind the filters and makes a truth value of anything.
  return if negated then .bool (!isTrue value) else value

/-- The number of an expression. Behind filters it is their result that counts. -/
def numberBehind (core : Computed) (value : Except Trouble Json) (changes : List Change) : Computed :=
  -- Without filters the number of the core is passed on, and its value is not asked for.
  if changes.isEmpty then core
  else do
    match ← value with
    | .number n => return some n
    | _ => .error .noNumberBehindFilter

/-- The meaning of an expression whose core is a reference. In a condition every error counts as
false, and under a negation a reference to nothing is a true value. -/
def meaningOfReference (found : Except Trouble Json) (text : String) (negated : Bool)
    (changes : List Change) : Meaning :=
  let value :=
    match found with
    -- A template may ask in this way whether a value is there.
    | .error trouble => if negated then .ok (.bool true) else .error trouble
    | .ok _ => valueBehind found negated changes
  let holds :=
    match value with
    | .ok value => isTrue value
    | .error _ => false
  -- As a number a missing value is always a trouble.
  let number := numberBehind (found.bind (numberOf text)) value changes
  ⟨value, .ok holds, number⟩

/-- The meaning of an expression, from the meaning of its core. -/
def meaningBehind (core : Meaning) (negated : Bool) (changes : List Change) : Meaning :=
  let value := valueBehind core.value negated changes
  -- As a condition the core is asked, and the filters are passed over.
  ⟨value, negateIf negated core.truth, numberBehind core.number value changes⟩

/-- The text of a value in a joined text. Numbers join as they are written, and truth values do not join. -/
def joinedValue (trouble : Trouble) : Json → Except Trouble String
  | .text value => .ok value
  | .number number => .ok number.toText
  | _ => .error trouble

/-- The text of a part of a joined text. The value is that of the part by itself. -/
def joinablePart (scene : Scene) (value : Except Trouble Json) : Core → Except Trouble String
  | .text value => .ok value
  | .int value => .ok (toString value)
  | .float value => .ok value.plainText
  | .reference reference => do joinedValue (.notJoinable reference.text) (← scene.resolve reference)
  | .call name _ => do joinedValue (.notJoinableFrom name) (← value)
  | other => .error (.notJoinable other.partText)

/-- All values, or the first trouble. -/
def allValues : List (Except Trouble Json) → Except Trouble (List Json)
  | [] => .ok []
  | value :: rest => do
    let value ← value
    return value :: (← allValues rest)

/-- What a function gives for arguments. All of them are evaluated before it is called. -/
def callValue (functions : Functions) (name : String) (names : List String)
    (values : List (Except Trouble Json)) : Except Trouble Json :=
  match functions name with
  | none => .error (.unknownFunction name)
  | some function =>
    match allValues values with
    | .error trouble => .error (.functionFailed name (some trouble))
    | .ok values =>
      match function (names.zip values) with
      | .ok value => .ok value
      | .error message => .error (.functionFailed name (some (.told message)))

/-- The truth that a function gives. Other values do not count as true or false. -/
def truthFrom (function : String) : Json → Except Trouble Bool
  | .bool value => .ok value
  | _ => .error (.noTruthFrom function)

/-- The number that a function gives. -/
def numberFrom (function : String) : Json → Computed
  | .number n => .ok (some n)
  | _ => .error (.noNumberFrom function)

/-- The meaning of a call, from what the function gives. -/
def Meaning.ofCall (name : String) (value : Except Trouble Json) : Meaning :=
  ⟨value, value.bind (truthFrom name), value.bind (numberFrom name)⟩

mutual

/-- The meaning of a core, as an expression with the given negation and filters. -/
def Core.meaning (scene : Scene) (negated : Bool) (changes : List Change) : Core → Meaning
  | .text value =>
    meaningBehind (.ofValue (.text value) (.error (.nonNumber (.text value)))) negated changes
  | .int value => meaningBehind (.ofNumber (.ok (some (.int value)))) negated changes
  | .float value => meaningBehind (.ofNumber (.ok (some (.float value)))) negated changes
  | .bool value =>
    meaningBehind (.ofValue (.bool value) (.error (.nonNumber (.bool value)))) negated changes
  | .reference reference =>
    meaningOfReference (scene.resolve reference) reference.text negated changes
  -- Both sides are wanted as numbers, whatever their values would be.
  | .math left op right =>
    let l := left.meaning scene
    let r := right.meaning scene
    let number : Computed := do
      match ← l.number, ← r.number with
      | some l, some r => op.compute l r left.description right.description
      -- What has no number on one side has none as a whole.
      | _, _ => return none
    meaningBehind (.ofNumber number) negated changes
  | .logic left op right =>
    let truth := logicTruth negated (left.meaning scene) op (right.meaning scene)
    -- As a value the condition is negated once more.
    ⟨valueBehind (truth.map .bool) negated changes, truth, .error (.nonNumber .condition)⟩
  | .call name arguments =>
    let value := callValue scene.functions name (arguments.map (·.1)) (argumentValues scene arguments)
    meaningBehind (.ofCall name value) negated changes
  | .list items =>
    let values := (allValues (values scene items)).map Json.array
    let core : Meaning := ⟨values, values.map isTrue, .error (.nonNumber .list)⟩
    meaningBehind core negated changes
  | .joined parts =>
    let text := (joinParts scene parts).map Json.text
    let value := valueBehind text negated changes
    -- The value is negated already when it is asked for its truth, and the truth once more.
    ⟨value, negateIf negated (value.map isTrue),
      numberBehind (.error (.nonNumber (.joined (joinedText parts)))) value changes⟩
  | .among value isNegated container =>
    let l := value.meaning scene
    let r := container.meaning scene
    let truth : Except Trouble Bool := do
      let found ← isAmong (← l.value) (← r.value)
      -- The negation behind the value belongs to the operator. The other one is applied later.
      return found != isNegated
    meaningBehind (.ofTruth truth) negated changes

/-- The meaning of an expression. -/
def Expression.meaning (scene : Scene) : Expression → Meaning
  | .mk core negated filters => core.meaning scene negated (changes scene filters)

/-- The filters in a scene. -/
def changes (scene : Scene) : List Filter → List Change
  | [] => []
  | .mk name arguments :: rest => ⟨name, argumentValues scene arguments⟩ :: changes scene rest

/-- The values of arguments. -/
def argumentValues (scene : Scene) : List (String × Expression) → List (Except Trouble Json)
  | [] => []
  -- Names of arguments matter to functions only, since no filter asks for one.
  | (_, value) :: rest => (value.meaning scene).value :: argumentValues scene rest

/-- The values of several expressions. -/
def values (scene : Scene) : List Expression → List (Except Trouble Json)
  | [] => []
  | item :: rest => (item.meaning scene).value :: values scene rest

/-- The text of several parts. -/
def joinParts (scene : Scene) : List Core → Except Trouble String
  | [] => .ok ""
  | part :: rest => do
    let text ← joinablePart scene (part.meaning scene false []).value part
    -- From left to right, so the first part that cannot be joined is told.
    return text ++ (← joinParts scene rest)

end

/-- The value of an expression. -/
def Expression.evaluate (scene : Scene) (expression : Expression) : Except Trouble Json :=
  (expression.meaning scene).value

/-- The truth of a condition. -/
def Expression.holds (scene : Scene) (expression : Expression) : Except Trouble Bool :=
  (expression.meaning scene).truth

end UdsCatalog.Template
