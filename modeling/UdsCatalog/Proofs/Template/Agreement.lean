import Mathlib
import UdsCatalog.Template.Meaning

/-!
What an expression means depends on what is found under the names in it and on the functions that it calls,
and on nothing else of the scene. Only the wording of a trouble tells more, namely the name of the template.
-/

namespace UdsCatalog.Template

/-- Two results agree: both are the same value, or both are troubles. -/
inductive Agree {ε α : Type} : Except ε α → Except ε α → Prop
  | ok (value : α) : Agree (.ok value) (.ok value)
  | error (trouble other : ε) : Agree (.error trouble) (.error other)

namespace Agree

variable {ε α β : Type} {first second : Except ε α}

/-- A result agrees with itself. -/
theorem refl (result : Except ε α) : Agree result result := by
  cases result with
  | ok value => exact .ok value
  | error trouble => exact .error trouble trouble

/-- Results that agree are the same value, or two troubles. -/
theorem cases (agree : Agree first second) :
    (∃ value, first = .ok value ∧ second = .ok value) ∨
      ∃ trouble other, first = .error trouble ∧ second = .error other := by
  cases agree with
  | ok value => exact .inl ⟨value, rfl, rfl⟩
  | error trouble other => exact .inr ⟨trouble, other, rfl, rfl⟩

/-- Steps that agree are followed by steps that agree. -/
theorem bind {next other : α → Except ε β} (agree : Agree first second)
    (follow : ∀ value, Agree (next value) (other value)) :
    Agree (first >>= next) (second >>= other) := by
  cases agree with
  | ok value => exact follow value
  | error trouble other => exact .error trouble other

/-- What is made of values that agree agrees. -/
theorem map (change : α → β) (agree : Agree first second) :
    Agree (first.map change) (second.map change) := by
  cases agree with
  | ok value => exact .ok (change value)
  | error trouble other => exact .error trouble other

/-- Loops whose turns agree agree. -/
theorem foldlM {turn other : β → α → Except ε β} (turns : ∀ b a, Agree (turn b a) (other b a))
    (items : List α) (start : β) : Agree (items.foldlM turn start) (items.foldlM other start) := by
  -- The turns go on from the value that both of them have come to.
  induction items generalizing start with
  | nil => exact .refl _
  | cons item rest ih => exact (turns start item).bind fun next => ih next

/-- Results that agree give the same value, if any. -/
theorem toOption_eq (agree : Agree first second) : first.toOption = second.toOption := by
  cases agree <;> rfl

/-- Results that agree succeed with the same values. -/
theorem eq_ok_iff (agree : Agree first second) (value : α) :
    first = .ok value ↔ second = .ok value := by
  cases agree <;> simp

end Agree

/-! ### Filters and operators -/

/-- Two filters agree: they have the same name, and arguments that agree. -/
structure Change.Agree (change other : Change) : Prop where
  name : change.name = other.name
  arguments : List.Forall₂ Template.Agree change.arguments other.arguments

/-- Filters agree one by one. -/
abbrev ChangesAgree : List Change → List Change → Prop := List.Forall₂ Change.Agree

/-- Two meanings agree as values, as conditions and as numbers. -/
structure Meaning.Agree (meaning other : Meaning) : Prop where
  value : Template.Agree meaning.value other.value
  truth : Template.Agree meaning.truth other.truth
  number : Template.Agree meaning.number other.number

/-- A meaning agrees with itself. -/
theorem Meaning.Agree.refl (meaning : Meaning) : Meaning.Agree meaning meaning :=
  ⟨.refl _, .refl _, .refl _⟩

/-- Some argument of a filter is a trouble when one of those that agree with them is. -/
theorem findSome?_agree {arguments others : List (Except Trouble Json)}
    (agree : List.Forall₂ Agree arguments others) :
    (arguments.findSome? fun | .error trouble => some trouble | .ok _ => none).isSome =
      (others.findSome? fun | .error trouble => some trouble | .ok _ => none).isSome := by
  -- The two lists have their errors at the same positions.
  induction agree with
  | nil => rfl
  | cons head _ ih =>
    cases head with
    | ok value => exact ih
    | error trouble other => rfl

/-- A filter looks at nothing of its arguments but whether they are troubles. -/
theorem applyFilter_agree (name : String) {arguments others : List (Except Trouble Json)}
    (agree : List.Forall₂ Agree arguments others) (value : Json) :
    Agree (applyFilter name arguments value) (applyFilter name others value) := by
  -- Whether some argument is a trouble decides here, and not which trouble it is.
  have same := findSome?_agree agree
  unfold applyFilter
  split
  · exact .refl _
  · revert same
    generalize arguments.findSome? _ = found
    generalize others.findSome? _ = otherFound
    intro same
    cases found with
    | none => cases otherFound with
      | none => exact .refl _
      | some trouble => cases same
    | some trouble => cases otherFound with
      | none => cases same
      | some other => exact .error _ _

/-- The first filter changes the value, and the others change what it gives. -/
theorem applyAll_cons (change : Change) (rest : List Change) (value : Json) :
    applyAll (change :: rest) value =
      applyFilter change.name change.arguments value >>= applyAll rest := by
  rw [applyAll]
  cases applyFilter change.name change.arguments value <;> rfl

/-- Filters that agree change a value in the same way. -/
theorem applyAll_agree {changes others : List Change} (agree : ChangesAgree changes others)
    (value : Json) : Agree (applyAll changes value) (applyAll others value) := by
  -- Each filter works on the value that the one before it gives.
  induction agree generalizing value with
  | nil => exact .refl _
  | @cons change other _ _ head _ ih =>
    rw [applyAll_cons, applyAll_cons, head.name]
    exact (applyFilter_agree other.name head.arguments value).bind ih

/-- Filters that agree are as many. -/
theorem isEmpty_agree {changes others : List Change} (agree : ChangesAgree changes others) :
    changes.isEmpty = others.isEmpty := by
  cases agree <;> rfl

/-- The values of numbers that agree agree. -/
theorem valueOfNumber_agree {number other : Computed} (agree : Agree number other) :
    Agree (valueOfNumber number) (valueOfNumber other) := by
  cases agree with
  | ok value => exact .refl _
  | error trouble other => exact .error _ _

/-- Conditions that agree have meanings that agree. -/
theorem ofTruth_agree {truth other : Except Trouble Bool} (agree : Agree truth other) :
    (Meaning.ofTruth truth).Agree (.ofTruth other) :=
  ⟨agree.map _, agree, .refl _⟩

/-- Computations that agree have meanings that agree. -/
theorem ofNumber_agree {number other : Computed} (agree : Agree number other) :
    (Meaning.ofNumber number).Agree (.ofNumber other) :=
  ⟨valueOfNumber_agree agree, agree.map _, agree⟩

section Operators

variable {left right otherLeft otherRight : Meaning}

/-- Comparing numbers that agree agrees. -/
theorem comparedNumbers_agree (op : LogicOp) (left_ : left.Agree otherLeft)
    (right_ : right.Agree otherRight) :
    Agree (comparedNumbers op left right) (comparedNumbers op otherLeft otherRight) :=
  left_.number.bind fun _ => right_.number.bind fun _ => .refl _

/-- Comparing values that agree agrees. -/
theorem comparedValues_agree (wanted : Bool) (left_ : left.Agree otherLeft)
    (right_ : right.Agree otherRight) :
    Agree (comparedValues wanted left right) (comparedValues wanted otherLeft otherRight) :=
  left_.value.bind fun _ => right_.value.bind fun _ => .refl _

/-- Conditions that agree have the same truth under an operator. -/
theorem logicTruth_agree (negated : Bool) (op : LogicOp) (left_ : left.Agree otherLeft)
    (right_ : right.Agree otherRight) :
    Agree (logicTruth negated left op right) (logicTruth negated otherLeft op otherRight) := by
  -- Under "and" and "or" the right side counts only where the left one leaves the truth open.
  cases op with
  | both =>
    refine Agree.map _ (left_.truth.bind fun holds => ?_)
    cases holds
    · exact .refl _
    · exact right_.truth
  | either =>
    refine Agree.map _ (left_.truth.bind fun holds => ?_)
    cases holds
    · exact right_.truth
    · exact .refl _
  | equal => exact (comparedValues_agree _ left_ right_).bind fun _ => .refl _
  | unequal => exact (comparedValues_agree _ left_ right_).bind fun _ => .refl _
  | less => exact (comparedNumbers_agree _ left_ right_).map _
  | atMost => exact (comparedNumbers_agree _ left_ right_).map _
  | greater => exact (comparedNumbers_agree _ left_ right_).map _
  | atLeast => exact (comparedNumbers_agree _ left_ right_).map _

end Operators

section Behind

variable {changes others : List Change}

/-- What stands behind cores that agree agrees as a value. -/
theorem valueBehind_agree {core other : Except Trouble Json} (agree : Agree core other)
    (negated : Bool) (filters : ChangesAgree changes others) :
    Agree (valueBehind core negated changes) (valueBehind other negated others) :=
  agree.bind fun value => (applyAll_agree filters value).bind fun _ => .refl _

/-- What stands behind cores that agree agrees as a number. -/
theorem numberBehind_agree {core other : Computed} {value otherValue : Except Trouble Json}
    (agree : Agree core other) (behind : Agree value otherValue)
    (filters : ChangesAgree changes others) :
    Agree (numberBehind core value changes) (numberBehind other otherValue others) := by
  unfold numberBehind
  rw [isEmpty_agree filters]
  split
  · exact agree
  · exact behind.bind fun _ => .refl _

/-- A reference holds when it has a value that counts as true. -/
theorem truth_meaningOfReference (found : Except Trouble Json) (text : String) (negated : Bool)
    (changes : List Change) :
    (meaningOfReference found text negated changes).truth =
      .ok ((meaningOfReference found text negated changes).value.toOption.any isTrue) := by
  -- The condition is defined from the value, and the number is not asked.
  unfold meaningOfReference
  cases found with
  | error trouble => cases negated <;> rfl
  | ok value =>
    dsimp only
    cases valueBehind (.ok value) negated changes <;> rfl

/-- References that agree have meanings that agree. -/
theorem meaningOfReference_agree {found other : Except Trouble Json} (agree : Agree found other)
    (text : String) (negated : Bool) (filters : ChangesAgree changes others) :
    (meaningOfReference found text negated changes).Agree
      (meaningOfReference other text negated others) := by
  have value : Agree (meaningOfReference found text negated changes).value
      (meaningOfReference other text negated others).value := by
    cases agree with
    | ok value => exact valueBehind_agree (.ok value) negated filters
    | error trouble other =>
      -- A reference to nothing that is negated has a value, whatever the trouble is.
      cases negated
      · exact .error trouble other
      · exact .refl _
  -- Whether a reference holds is never a trouble: it is told from its value, if it has one.
  have truth : Agree (meaningOfReference found text negated changes).truth
      (meaningOfReference other text negated others).truth := by
    rw [truth_meaningOfReference, truth_meaningOfReference, value.toOption_eq]
    exact .refl _
  exact ⟨value, truth, numberBehind_agree (agree.bind fun _ => .refl _) value filters⟩

/-- Cores that agree have meanings behind their filters that agree. -/
theorem meaningBehind_agree {core other : Meaning} (agree : core.Agree other) (negated : Bool)
    (filters : ChangesAgree changes others) :
    (meaningBehind core negated changes).Agree (meaningBehind other negated others) := by
  have value := valueBehind_agree agree.value negated filters
  exact ⟨value, agree.truth.map _, numberBehind_agree agree.number value filters⟩

end Behind

/-- Values that agree one by one agree as a whole. -/
theorem allValues_agree {first second : List (Except Trouble Json)} (agree : List.Forall₂ Agree first second) :
    Agree (allValues first) (allValues second) := by
  induction agree with
  | nil => exact .refl _
  | cons head _ ih => exact head.bind fun _ => ih.bind fun _ => .refl _

/-- A function that is called with values that agree gives values that agree. -/
theorem callValue_agree (functions : Functions) (name : String) (names : List String)
    {first second : List (Except Trouble Json)} (agree : List.Forall₂ Agree first second) :
    Agree (callValue functions name names first) (callValue functions name names second) := by
  unfold callValue
  cases functions name with
  | none => exact .refl _
  | some function =>
    -- It is called with the same values, or not at all.
    rcases (allValues_agree agree).cases with ⟨values, here, there⟩ | ⟨trouble, other, here, there⟩ <;>
      rw [here, there]
    · exact .refl _
    · exact .error _ _

/-- Calls that give values that agree have meanings that agree. -/
theorem ofCall_agree (name : String) {value other : Except Trouble Json} (agree : Agree value other) :
    (Meaning.ofCall name value).Agree (.ofCall name other) :=
  ⟨agree, agree.bind fun _ => .refl _, agree.bind fun _ => .refl _⟩

/-! ### Scenes -/

/-- Two scenes find the same under every name, and have the same functions to call. -/
structure SameSight (scene other : Scene) : Prop where
  find?_eq : ∀ text, scene.find? text = other.find? text
  functions : scene.functions = other.functions

section Scenes

variable {scene other : Scene} (same : SameSight scene other)
include same

/-- References lead to the same in scenes that find the same. -/
theorem valueAt_agree (room : Nat) (text : List Char) :
    Agree (scene.valueAt room text) (other.valueAt room text) := by
  -- Indices of a reference are references themselves, followed with less room.
  induction room generalizing text with
  | zero => exact .error _ _
  | succ room ih =>
    rw [Scene.valueAt, Scene.valueAt]
    split
    · rw [same.find?_eq text]
      split
      · exact .refl _
      · exact .error _ _
    · -- The indices are worked out one after the other, and each of them agrees.
      refine (Agree.foldlM (fun worked index => ?_) _ _).bind fun worked => ?_
      · rcases (ih index).cases with ⟨value, here, there⟩ | ⟨trouble, other, here, there⟩
        · rw [here, there]
          exact .refl _
        · rw [here, there]
          exact .error _ _
      · dsimp only
        rw [same.find?_eq]
        split
        · exact .refl _
        · exact .error _ _

/-- References lead to the same in scenes that find the same. -/
theorem resolve_agree (reference : Reference) :
    Agree (scene.resolve reference) (other.resolve reference) :=
  valueAt_agree same _ _

/-- A part of a joined text is the same in scenes that find the same, if its value is. -/
theorem joinablePart_agree {value otherValue : Except Trouble Json} (agree : Agree value otherValue)
    (part : Core) : Agree (joinablePart scene value part) (joinablePart other otherValue part) := by
  cases part with
  | reference reference => exact (resolve_agree same reference).bind fun _ => .refl _
  | call name arguments => exact agree.bind fun _ => .refl _
  | _ => exact .refl _

end Scenes

mutual

/-- A core means the same in scenes that find the same, behind filters that agree. -/
theorem Core.meaning_agree {scene other : Scene} (same : SameSight scene other) (negated : Bool)
    {changes others : List Change} (filters : ChangesAgree changes others) :
    (core : Core) →
      (core.meaning scene negated changes).Agree (core.meaning other negated others)
  | .text _ => meaningBehind_agree (.refl _) negated filters
  | .int _ => meaningBehind_agree (.refl _) negated filters
  | .float _ => meaningBehind_agree (.refl _) negated filters
  | .bool _ => meaningBehind_agree (.refl _) negated filters
  | .reference reference =>
    meaningOfReference_agree (resolve_agree same reference) reference.text negated filters
  -- Both sides agree as numbers, and so does what is computed from them.
  | .math left op right => by
    have number := (left.meaning_agree same).number.bind fun l =>
      (right.meaning_agree same).number.bind fun r =>
        Agree.refl (match l, r with
          | some l, some r => op.compute l r left.description right.description
          | _, _ => Except.ok none)
    exact meaningBehind_agree (ofNumber_agree number) negated filters
  -- The value is made from the truth, which agrees by the two sides.
  | .logic left op right => by
    have truth := logicTruth_agree negated op (left.meaning_agree same) (right.meaning_agree same)
    exact ⟨valueBehind_agree (truth.map _) negated filters, truth, .refl _⟩
  -- The functions are the same, so only the arguments are compared.
  | .call name arguments => by
    have value := callValue_agree other.functions name (arguments.map (·.1))
      (argumentValues_agree same arguments)
    rw [Core.meaning, Core.meaning, same.functions]
    exact meaningBehind_agree (ofCall_agree name value) negated filters
  | .list items => by
    have values := (allValues_agree (values_agree same items)).map Json.array
    have core : Meaning.Agree ⟨_, _, .error (.nonNumber .list)⟩ ⟨_, _, .error (.nonNumber .list)⟩ :=
      ⟨values, values.map isTrue, .refl _⟩
    exact meaningBehind_agree core negated filters
  | .joined parts => by
    have value := valueBehind_agree ((joinParts_agree same parts).map Json.text) negated filters
    exact ⟨value, (value.map _).map _, numberBehind_agree (.refl _) value filters⟩
  -- The two values are looked up in each other, whatever they are.
  | .among value isNegated container => by
    have truth := (value.meaning_agree same).value.bind fun l =>
      (container.meaning_agree same).value.bind fun r =>
        Agree.refl (do return (← isAmong l r) != isNegated)
    exact meaningBehind_agree (ofTruth_agree truth) negated filters

/-- An expression means the same in scenes that find the same. -/
theorem Expression.meaning_agree {scene other : Scene} (same : SameSight scene other) :
    (expression : Expression) → (expression.meaning scene).Agree (expression.meaning other)
  | .mk core negated filters => core.meaning_agree same negated (changes_agree same filters)

/-- Filters are the same in scenes that find the same. -/
theorem changes_agree {scene other : Scene} (same : SameSight scene other) :
    (filters : List Filter) → ChangesAgree (changes scene filters) (changes other filters)
  | [] => .nil
  | .mk _ arguments :: rest => .cons ⟨rfl, argumentValues_agree same arguments⟩ (changes_agree same rest)

/-- Arguments have the same values in scenes that find the same. -/
theorem argumentValues_agree {scene other : Scene} (same : SameSight scene other) :
    (arguments : List (String × Expression)) →
      List.Forall₂ Agree (argumentValues scene arguments) (argumentValues other arguments)
  | [] => .nil
  | (_, value) :: rest => .cons (value.meaning_agree same).value (argumentValues_agree same rest)

/-- Expressions have the same values in scenes that find the same. -/
theorem values_agree {scene other : Scene} (same : SameSight scene other) :
    (items : List Expression) → List.Forall₂ Agree (values scene items) (values other items)
  | [] => .nil
  | item :: rest => .cons (item.meaning_agree same).value (values_agree same rest)

/-- A joined text is the same in scenes that find the same. -/
theorem joinParts_agree {scene other : Scene} (same : SameSight scene other) :
    (parts : List Core) → Agree (joinParts scene parts) (joinParts other parts)
  | [] => .refl _
  | part :: rest =>
    (joinablePart_agree same (part.meaning_agree same false .nil).value part).bind fun _ =>
      (joinParts_agree same rest).bind fun _ => .refl _

end

end UdsCatalog.Template
