import Mathlib
import UdsCatalog.Proofs.Schema.Acceptance

/-!
Where violations are. A schema complains about places inside of the value that it is held against, and
what it says about an item or a field is part of what it says about the whole.
-/

namespace UdsCatalog

/-- A document has a part at a place, given by the steps from its root. -/
inductive Json.HasPart : Json → List Json.Step → Json → Prop where
  | whole (value : Json) : HasPart value [] value
  | field {fields : List (String × Json)} {name : String} {inner part : Json} {steps : List Json.Step} :
    (name, inner) ∈ fields → HasPart inner steps part → HasPart (.object fields) (.field name :: steps) part
  | item {items : List Json} {index : Nat} {inner part : Json} {steps : List Json.Step} :
    items[index]? = some inner → HasPart inner steps part → HasPart (.array items) (.item index :: steps) part

namespace Schema

/-- A violation names a place that there is inside of a value, which itself stands at a place. -/
def Violation.IsInside (violation : Violation) (place : List Json.Step) (value : Json) : Prop :=
  ∃ steps part, violation.place = place ++ steps ∧ value.HasPart steps part

/-- A checker complains about places inside of the value only. -/
def StaysInside (check : Checker) : Prop :=
  ∀ place value, ∀ violation ∈ check place value, violation.IsInside place value

namespace Violation.IsInside

variable {violation : Violation} {place : List Json.Step} {value inner : Json}

/-- A violation of a value as a whole names the place of the value. -/
theorem ofPlace (same : violation.place = place) : violation.IsInside place value :=
  ⟨[], value, by rw [same, List.append_nil], .whole value⟩

/-- What is inside of an item is inside of its array. -/
theorem ofItem {items : List Json} {index : Nat} (found : items[index]? = some inner)
    (inside : violation.IsInside (place ++ [.item index]) inner) :
    violation.IsInside place (.array items) := by
  obtain ⟨steps, part, same, reached⟩ := inside
  exact ⟨.item index :: steps, part, by simp [same], .item found reached⟩

/-- What is inside of a field is inside of its object. -/
theorem ofField {fields : List (String × Json)} {name : String} (member : (name, inner) ∈ fields)
    (inside : violation.IsInside (place ++ [.field name]) inner) :
    violation.IsInside place (.object fields) := by
  obtain ⟨steps, part, same, reached⟩ := inside
  exact ⟨.field name :: steps, part, by simp [same], .field member reached⟩

end Violation.IsInside

/-- A demand complains about the place where it is made. -/
theorem isInside_of_mem_demand {holds : Bool} {place : List Json.Step} {value reported : Json}
    {complaint : Complaint} {violation : Violation}
    (member : violation ∈ demand holds place reported complaint) : violation.IsInside place value := by
  cases holds with
  | true => cases member
  | false =>
    exact .ofPlace (by rw [List.mem_singleton.mp member])

/-- What is said about the items of an array is said about one of them, where it stands. -/
theorem mem_checkItems {check : Checker} {place : List Json.Step} {start : Nat} {items : List Json}
    {violation : Violation} : violation ∈ checkItems check place start items ↔
      ∃ index item, items[index]? = some item ∧
        violation ∈ check (place ++ [.item (start + index)]) item := by
  -- The items behind the first one are counted from the next index.
  induction items generalizing start with
  | nil => simp [checkItems]
  | cons item rest ih =>
    rw [checkItems, List.mem_append, ih]
    constructor
    · rintro (here | ⟨index, later, found, member⟩)
      · exact ⟨0, item, rfl, here⟩
      · exact ⟨index + 1, later, found, by rwa [Nat.add_right_comm] at member⟩
    · rintro ⟨index, found, stands, member⟩
      cases index with
      | zero =>
        cases stands
        exact .inl member
      | succ index => exact .inr ⟨index, found, stands, by rwa [Nat.add_right_comm]⟩

/-- What is said about the fields of an object is said about one of them, under its name. -/
theorem mem_checkFields {place : List Json.Step} {known : List (String × Checker)} {others : Checker}
    {fields : List (String × Json)} {violation : Violation} :
    violation ∈ checkFields place known others fields ↔ ∃ name value, (name, value) ∈ fields ∧
      violation ∈ ((known.lookup name).getD others) (place ++ [.field name]) value := by
  -- Each field is checked under its own name, wherever it stands.
  induction fields with
  | nil => simp [checkFields]
  | cons field rest ih =>
    obtain ⟨name, value⟩ := field
    rw [checkFields, List.mem_append, ih]
    simp only [List.mem_cons, Prod.mk.injEq]
    constructor
    · rintro (here | ⟨other, found, member, complains⟩)
      · exact ⟨name, value, .inl ⟨rfl, rfl⟩, here⟩
      · exact ⟨other, found, .inr member, complains⟩
    · rintro ⟨other, found, ⟨rfl, rfl⟩ | member, complains⟩
      · exact .inl complains
      · exact .inr ⟨other, found, member, complains⟩

/-- What is said about the first items of an array, behind those in front, is inside of one of them. -/
theorem isInside_of_mem_checkLeading {checks : List Checker}
    (each : ∀ check ∈ checks, StaysInside check) {place : List Json.Step} (before items : List Json)
    {violation : Violation} (member : violation ∈ checkLeading place before.length checks items) :
    violation.IsInside place (.array (before ++ items)) := by
  -- The items in front of the current one give it its index.
  induction checks generalizing before items with
  | nil => cases member
  | cons check checks ih =>
    cases items with
    | nil => cases member
    | cons item rest =>
      rw [checkLeading, List.mem_append] at member
      rcases member with here | later
      · exact (each check (by simp) _ _ _ here).ofItem (by simp)
      · have moved := ih (fun check found => each check (by simp [found])) (before ++ [item]) rest
          (by simpa using later)
        simpa using moved

/-- What is said about the known fields of an object is inside of one of them. -/
theorem isInside_of_mem_checkKnown {known : List (String × Checker)}
    (each : ∀ entry ∈ known, StaysInside entry.2) {place : List Json.Step}
    {fields : List (String × Json)} {violation : Violation}
    (member : violation ∈ checkKnown place fields known) : violation.IsInside place (.object fields) := by
  -- A known name leads to the first field that has it, if there is one.
  induction known with
  | nil => cases member
  | cons entry rest ih =>
    obtain ⟨name, check⟩ := entry
    rw [checkKnown, List.mem_append] at member
    rcases member with here | later
    · cases found : fields.lookup name with
      | none => simp [found] at here
      | some value =>
        rw [found] at here
        exact (each _ List.mem_cons_self _ _ _ here).ofField (mem_of_lookup found)
    · exact ih (fun entry found => each entry (by simp [found])) later

/-- What is said about the fields of an object, known or not, is inside of one of them. -/
theorem isInside_of_mem_checkFields {known : List (String × Checker)} {others : Checker}
    (each : ∀ entry ∈ known, StaysInside entry.2) (rest : StaysInside others)
    {place : List Json.Step} {fields : List (String × Json)} {violation : Violation}
    (member : violation ∈ checkFields place known others fields) :
    violation.IsInside place (.object fields) := by
  obtain ⟨name, value, found, complains⟩ := mem_checkFields.mp member
  -- Whichever checker it is that complains, it is about the field.
  refine Violation.IsInside.ofField found ?_
  cases checker : known.lookup name with
  | none => exact rest _ _ _ (by simpa [checker] using complains)
  | some check =>
    rw [checker] at complains
    exact each (name, check) (mem_of_lookup checker) _ _ _ complains

/-- A pattern complains about a text as a whole, whether the text differs or that is not decided. -/
theorem matching_staysInside (source : String) (pattern : Pattern) :
    StaysInside (Schema.matching source pattern).check := by
  -- Whatever the verdict is, the complaint is made at the place of the text.
  intro place value violation member
  cases value with
  | text text =>
    refine .ofPlace ?_
    cases verdict : pattern.examine text <;> simp only [check, verdict, List.mem_singleton] at member
    · cases member
    · rw [member]
    · rw [member]
  | _ => cases member

mutual

/-- A schema complains about places inside of the value only. -/
theorem check_staysInside : ∀ schema : Schema, StaysInside schema.check
  | .always _ | .types _ | .constant _ | .among _ => fun _ _ _ member => isInside_of_mem_demand member
  | .all rules => checkAll_staysInside rules
  | .eachItem each => by
    intro place value violation member
    cases value with
    | array items =>
      obtain ⟨index, item, found, complains⟩ := mem_checkItems.mp member
      -- Counting starts at zero, so the item stands at the index that the violation names.
      rw [Nat.zero_add] at complains
      exact (check_staysInside each _ _ _ complains).ofItem found
    | _ => cases member
  | .leadingItems each => by
    intro place value violation member
    cases value with
    | array items => exact isInside_of_mem_checkLeading (checkers_stayInside each) [] items member
    | _ => cases member
  | .minItems _ | .maxItems _ => by
    intro place value violation member
    cases value with
    | array items => exact isInside_of_mem_demand member
    | _ => cases member
  | .minLength _ | .maxLength _ => by
    intro place value violation member
    cases value with
    | text text => exact isInside_of_mem_demand member
    | _ => cases member
  | .minimum _ | .maximum _ => by
    intro place value violation member
    cases value with
    | number number => exact isInside_of_mem_demand member
    | _ => cases member
  | .matching source pattern => matching_staysInside source pattern
  | .required names => by
    intro place value violation member
    cases value with
    | object fields =>
      obtain ⟨name, -, demanded⟩ := List.mem_flatMap.mp member
      exact isInside_of_mem_demand demanded
    | _ => cases member
  | .properties known => by
    intro place value violation member
    cases value with
    | object fields => exact isInside_of_mem_checkKnown (fieldCheckers_stayInside known) member
    | _ => cases member
  | .onlyProperties known => by
    intro place value violation member
    cases value with
    | object fields =>
      -- Unknown fields are reported together, at the object itself.
      rcases List.mem_append.mp member with complains | demanded
      · exact isInside_of_mem_checkFields (fieldCheckers_stayInside known)
          (fun _ _ _ none => by cases none) complains
      · exact isInside_of_mem_demand demanded
    | _ => cases member
  | .propertiesOr known others => by
    intro place value violation member
    cases value with
    | object fields =>
      -- All fields that are not known are checked by the one schema for them.
      exact isInside_of_mem_checkFields (fieldCheckers_stayInside known) (check_staysInside others) member
    | _ => cases member
  | .noProperties => by
    intro place value violation member
    cases value with
    | object fields =>
      cases fields with
      | nil => cases member
      | cons first rest => exact isInside_of_mem_demand member
    | _ => cases member

/-- Several schemas complain about places inside of the value only. -/
theorem checkAll_staysInside : ∀ rules : List Schema, StaysInside (checkAll rules)
  | rule :: rules, place, value, violation, member => by
    rcases List.mem_append.mp member with here | later
    · exact check_staysInside rule _ _ _ here
    · exact checkAll_staysInside rules _ _ _ later

/-- The checkers of schemas complain about places inside of the value only. -/
theorem checkers_stayInside : ∀ each : List Schema, ∀ check ∈ checkers each, StaysInside check
  | schema :: rest, check, member => by
    rcases List.mem_cons.mp member with rfl | later
    · exact check_staysInside schema
    · exact checkers_stayInside rest check later

/-- The checkers of named schemas complain about places inside of the value only. -/
theorem fieldCheckers_stayInside :
    ∀ known : List (String × Schema), ∀ entry ∈ fieldCheckers known, StaysInside entry.2
  | (name, schema) :: rest, entry, member => by
    rcases List.mem_cons.mp member with rfl | later
    · exact check_staysInside schema
    · exact fieldCheckers_stayInside rest entry later

end

/-- Something is said about a value that is not wanted, and it is about a place inside of the value. -/
theorem Asks.exists_violation {schema : Schema} {wanted : Json → Prop} (asks : schema.Asks wanted)
    (place : List Json.Step) {value : Json} (offends : ¬ wanted value) :
    ∃ violation ∈ schema.check place value, violation.IsInside place value := by
  have complains : schema.check place value ≠ [] := mt (asks place value).mp offends
  obtain ⟨violation, member⟩ := List.exists_mem_of_ne_nil _ complains
  exact ⟨violation, member, check_staysInside schema place value violation member⟩

end Schema

end UdsCatalog
