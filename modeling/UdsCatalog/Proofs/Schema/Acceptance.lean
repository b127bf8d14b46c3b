import Mathlib
import UdsCatalog.Schema.Basic

/-!
What schemas ask for. A schema says nothing against some values, wherever they stand, and what these
values have in common is put together from the rules of the schema.
-/

namespace UdsCatalog.Schema

/-- The schema says nothing against exactly the values that are wanted, wherever they stand. -/
def Asks (schema : Schema) (wanted : Json → Prop) : Prop :=
  ∀ place value, schema.check place value = [] ↔ wanted value

/-- A field of an object is one of the known ones and holds what is wanted there. -/
def IsKnownField (fields : List (String × (Json → Prop))) (name : String) (value : Json) : Prop :=
  ∃ wanted, fields.lookup name = some wanted ∧ wanted value

/-- An object that has the required fields and no others than the known ones, each with what is wanted
there. -/
def IsClosedObject (fields : List (String × (Json → Prop))) (required : List String) (value : Json) :
    Prop :=
  ∃ entries, value = .object entries ∧ (∀ name ∈ required, (entries.lookup name).isSome) ∧
    ∀ name value, (name, value) ∈ entries → IsKnownField fields name value

/-- An array of wanted items. -/
def IsArrayOf (wanted : Json → Prop) (value : Json) : Prop :=
  ∃ items, value = .array items ∧ ∀ item ∈ items, wanted item

/-- A text of a kind. -/
def IsText (kind : String → Prop) (value : Json) : Prop := ∃ text, value = .text text ∧ kind text

/-- What is found under a name is among the fields. -/
theorem mem_of_lookup {α : Type} {fields : List (String × α)} {name : String} {value : α}
    (found : fields.lookup name = some value) : (name, value) ∈ fields := by
  obtain ⟨before, after, rfl, -⟩ := List.lookup_eq_some_iff.mp found
  simp

/-- Nothing is said against what holds. -/
@[simp] theorem demand_eq_nil_iff {holds : Bool} {place : List Json.Step} {value : Json}
    {complaint : Complaint} : demand holds place value complaint = [] ↔ holds = true := by
  cases holds <;> simp [demand]

/-- Nothing is said against items of which nothing is said against any. -/
theorem checkItems_eq_nil_iff {each : Schema} {wanted : Json → Prop} (asks : each.Asks wanted)
    (place : List Json.Step) (index : Nat) (items : List Json) :
    checkItems each.check place index items = [] ↔ ∀ item ∈ items, wanted item := by
  -- The index only tells where an item stands.
  induction items generalizing index with
  | nil => simp [checkItems]
  | cons item rest ih => rw [checkItems, List.append_eq_nil_iff, asks, ih, List.forall_mem_cons]

/-- Nothing is said against fields of which nothing is said against any. -/
theorem checkFields_eq_nil_iff (place : List Json.Step) (known : List (String × Checker))
    (others : Checker) (fields : List (String × Json)) :
    checkFields place known others fields = [] ↔ ∀ name value, (name, value) ∈ fields →
      ((known.lookup name).getD others) (place ++ [.field name]) value = [] := by
  -- Fields are checked one by one, each by its own name alone.
  induction fields with
  | nil => simp [checkFields]
  | cons field rest ih =>
    obtain ⟨name, value⟩ := field
    rw [checkFields, List.append_eq_nil_iff, ih]
    constructor
    · rintro ⟨head, tail⟩ other found member
      rcases List.mem_cons.mp member with same | later
      · cases same
        exact head
      · exact tail other found later
    · intro each
      exact ⟨each name value (by simp), fun other found later => each other found (by simp [later])⟩

/-- No field is unknown when all of them are known. -/
theorem unknownNames_eq_nil_iff (known : List (String × Checker)) (fields : List (String × Json)) :
    unknownNames known fields = [] ↔
      ∀ name value, (name, value) ∈ fields → (known.lookup name).isSome := by
  simp only [unknownNames, List.filter_eq_nil_iff, List.mem_map, Prod.exists, exists_and_right,
    exists_eq_right, Option.isNone_iff_eq_none, Option.isSome_iff_ne_none, forall_exists_index]

/-- Each schema asks for what is wanted under its name. -/
abbrev AskEach : List (String × Schema) → List (String × (Json → Prop)) → Prop :=
  List.Forall₂ fun schema wanted => schema.1 = wanted.1 ∧ schema.2.Asks wanted.2

/-- What is wanted in a field is what its checker says nothing against. -/
theorem AskEach.isKnownField_iff {known : List (String × Schema)}
    {fields : List (String × (Json → Prop))} (each : AskEach known fields) (name : String)
    (value : Json) (place : List Json.Step) (others : Checker) :
    IsKnownField fields name value ↔ ((fieldCheckers known).lookup name).isSome ∧
      (((fieldCheckers known).lookup name).getD others) place value = [] := by
  -- Both lists have the same names in the same order, so the first of a name is at the same place.
  induction each with
  | nil => simp [IsKnownField, fieldCheckers]
  | @cons schema wanted _ _ first _ ih =>
    obtain ⟨schemaName, schema⟩ := schema
    obtain ⟨wantedName, wanted⟩ := wanted
    obtain ⟨same, asks⟩ := first
    obtain rfl : schemaName = wantedName := same
    by_cases here : name = schemaName
    · subst here
      simp [IsKnownField, fieldCheckers, asks place value]
    · have apart : (name == schemaName) = false := beq_false_of_ne here
      simpa [IsKnownField, fieldCheckers, List.lookup_cons, apart] using ih

namespace Asks

variable {schema each : Schema} {wanted other : Json → Prop}

/-- What is wanted may be said in other words. -/
theorem congr (asks : schema.Asks wanted) (same : ∀ value, wanted value ↔ other value) :
    schema.Asks other := fun place value => (asks place value).trans (same value)

/-- A schema without rules asks for nothing. -/
theorem noRules : (Schema.all []).Asks fun _ => True :=
  fun _ _ => iff_of_true rfl trivial

/-- A further rule asks for what it wants beside the others. -/
theorem rule {rule : Schema} {rules : List Schema} (asks : rule.Asks wanted)
    (rest : (Schema.all rules).Asks other) :
    (Schema.all (rule :: rules)).Asks fun value => wanted value ∧ other value := by
  intro place value
  -- The rules are checked one after the other, and what each of them says is put together.
  show check rule place value ++ checkAll rules place value = [] ↔ _
  rw [List.append_eq_nil_iff, asks]
  exact and_congr_right' (rest place value)

/-- A type rule asks for values of the types. -/
theorem types (wanted : List ValueType) :
    (Schema.types wanted).Asks fun value => wanted.any (·.holds value) = true := by
  intro place value
  show demand (wanted.any (·.holds value)) place value (.wrongType wanted) = [] ↔ _
  rw [demand_eq_nil_iff]

/-- A rule for the length of texts asks nothing of other values. -/
theorem minLength (limit : Nat) :
    (Schema.minLength limit).Asks fun value => ∀ text, value = .text text → limit ≤ text.length := by
  -- Of values of other types nothing is asked, and so it is with all rules of one type below.
  intro place value
  cases value with
  | text text =>
    show demand (limit ≤ text.length) place (.text text) (.tooShort limit) = [] ↔ _
    simp
  | _ => exact iff_of_true rfl (by rintro text ⟨⟩)

/-- A least number asks nothing of other values. -/
theorem minimum (limit : JsonNumber) :
    (Schema.minimum limit).Asks fun value =>
      ∀ number, value = .number number → compareNumbers number limit ≠ .lt := by
  intro place value
  cases value with
  | number number =>
    show demand (compareNumbers number limit != .lt) place (.number number) (.tooSmall limit) = [] ↔ _
    simp
  | _ => exact iff_of_true rfl (by rintro number ⟨⟩)

/-- A list of options asks for one that is equal to the value. -/
theorem among (options : List Json) :
    (Schema.among options).Asks fun value => ∃ option ∈ options, value.equal option = true := by
  intro place value
  show demand (options.any fun option => value.equal option) place value (.notAmong options) = [] ↔ _
  rw [demand_eq_nil_iff, List.any_eq_true]

/-- A pattern asks nothing of other values than texts. -/
theorem matching (source : String) (pattern : Pattern) :
    (Schema.matching source pattern).Asks fun value =>
      ∀ text, value = .text text → pattern.examine text = .matching := by
  intro place value
  cases value with
  | text text =>
    -- Nothing is said only when the pattern is found to match.
    cases verdict : pattern.examine text <;> simp [check, verdict]
  | _ => exact iff_of_true rfl (by rintro text ⟨⟩)

/-- Required names ask nothing of other values than objects. -/
theorem required (names : List String) :
    (Schema.required names).Asks fun value => ∀ entries, value = .object entries →
      ∀ name ∈ names, (entries.lookup name).isSome := by
  -- One demand for each name, so none is violated when all of them are met.
  intro place value
  cases value with
  | object entries =>
    show (names.flatMap fun name =>
      demand (entries.lookup name).isSome place (.object entries) (.missing name)) = [] ↔ _
    simp
  | _ => exact iff_of_true rfl (by rintro entries ⟨⟩)

/-- A rule for items asks nothing of other values than arrays. -/
theorem eachItem (asks : each.Asks wanted) :
    (Schema.eachItem each).Asks fun value => ∀ items, value = .array items →
      ∀ item ∈ items, wanted item := by
  -- The items are checked one after the other, each for itself.
  intro place value
  cases value with
  | array items =>
    show checkItems each.check place 0 items = [] ↔ _
    rw [checkItems_eq_nil_iff asks]
    simp
  | _ => exact iff_of_true rfl (by rintro items ⟨⟩)

/-- Known fields without others ask nothing of other values than objects. -/
theorem onlyProperties {known : List (String × Schema)} {fields : List (String × (Json → Prop))}
    (each : AskEach known fields) :
    (Schema.onlyProperties known).Asks fun value => ∀ entries, value = .object entries →
      ∀ name value, (name, value) ∈ entries → IsKnownField fields name value := by
  intro place value
  cases value with
  | object entries =>
    -- Every field is known, and its own schema says nothing against it.
    let unknown := unknownNames (fieldCheckers known) entries
    show checkFields place (fieldCheckers known) (fun _ _ => []) entries ++
      demand unknown.isEmpty place (.object entries) (.unexpected unknown) = [] ↔ _
    simp only [unknown, List.append_eq_nil_iff, checkFields_eq_nil_iff, demand_eq_nil_iff,
      List.isEmpty_iff, unknownNames_eq_nil_iff, Json.object.injEq, forall_eq']
    constructor
    · rintro ⟨sound, known⟩ name value member
      exact (each.isKnownField_iff name value _ _).mpr
        ⟨known name value member, sound name value member⟩
    · intro fields
      exact ⟨fun name value member =>
          ((each.isKnownField_iff name value _ _).mp (fields name value member)).2,
        fun name value member =>
          ((each.isKnownField_iff name value place (fun _ _ => [])).mp (fields name value member)).1⟩
  | _ => exact iff_of_true rfl (by rintro entries ⟨⟩)

/-- The rules of a closed object. -/
theorem closedObject {known : List (String × Schema)} {fields : List (String × (Json → Prop))}
    (each : AskEach known fields) (names : List String) :
    (Schema.all [.onlyProperties known, .required names, .types [.object]]).Asks
      (IsClosedObject fields names) := by
  refine ((onlyProperties each).rule ((required names).rule ((types _).rule noRules))).congr ?_
  intro value
  cases value with
  | object entries => simp [IsClosedObject, ValueType.holds, and_comm]
  | _ => simp [IsClosedObject, ValueType.holds]

/-- The rules of an array. -/
theorem arrayOf (asks : each.Asks wanted) :
    (Schema.all [.eachItem each, .types [.array]]).Asks (IsArrayOf wanted) := by
  refine ((eachItem asks).rule ((types _).rule noRules)).congr ?_
  intro value
  cases value <;> simp [IsArrayOf, ValueType.holds]

/-- The rule of any text. -/
theorem text : (Schema.all [.types [.text]]).Asks (IsText fun _ => True) := by
  refine ((types _).rule noRules).congr ?_
  intro value
  cases value <;> simp [IsText, ValueType.holds]

/-- The rules of texts of a kind. -/
theorem textOf {rule : Schema} {kind : String → Prop}
    (asks : rule.Asks fun value => ∀ text, value = .text text → kind text) :
    (Schema.all [rule, .types [.text]]).Asks (IsText kind) := by
  refine (asks.rule ((types _).rule noRules)).congr ?_
  intro value
  cases value <;> simp [IsText, ValueType.holds]

end Asks

end UdsCatalog.Schema
