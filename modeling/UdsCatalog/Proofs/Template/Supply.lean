import UdsCatalog.Proofs.Template.Plain

/-!
What plain templates ask for: what they print is a text or a whole number, what they go through is an
array, and what they choose by is a truth value. A plain template prints exactly when it is supplied
with all of that.
-/

namespace UdsCatalog.Template

/-- A value that is printed as it is. Nothing, truth values, arrays and objects are not. -/
def IsPrintable (value : Json) : Prop :=
  (∃ text, value = .text text) ∨ ∃ number : Int, value = .number (.int number)

mutual

/-- All values that a node reaches are in sight, and each is of the kind that its place asks for. -/
def Plain.IsSupplied (sight : Sight) : Plain → Prop
  | .text _ => True
  | .put way => ∃ value, sight.value? way = some value ∧ IsPrintable value
  | .each name way body =>
    -- Each turn must be supplied with its own item in front of what is in sight around the loop.
    ∃ items, sight.value? way = some (.array items) ∧
      ∀ item ∈ items, AreSupplied (sight.bind name item) body
  | .choose arms otherwise => ArmsAreSupplied sight (AreSupplied sight otherwise) arms

/-- All nodes are supplied. -/
def AreSupplied (sight : Sight) : List Plain → Prop
  | [] => True
  | node :: rest => node.IsSupplied sight ∧ AreSupplied sight rest

/-- Every condition up to the first true one is a truth value, and what is chosen is supplied. -/
def ArmsAreSupplied (sight : Sight) (otherwise : Prop) : List (Way × List Plain) → Prop
  | [] => otherwise
  | (way, body) :: rest =>
    ∃ truth, sight.value? way = some (.bool truth) ∧
      if truth then AreSupplied sight body else ArmsAreSupplied sight otherwise rest

end

/-- Printable values are those that have a printed text. -/
theorem isSome_printed?_iff (value : Json) : (printed? value).isSome ↔ IsPrintable value := by
  -- Texts and whole numbers have one, floats and all other kinds have none.
  cases value with
  | number number => cases number <;> simp [IsPrintable]
  | _ => simp [IsPrintable]

/-- All items together have a text when each of them has one. -/
theorem isSome_joinEach_iff {text? : Json → Option String} {items : List Json} :
    (joinEach text? items).isSome ↔ ∀ item ∈ items, (text? item).isSome := by
  -- The first item without a text takes the text from the whole.
  induction items with
  | nil => simp [joinEach]
  | cons item rest ih =>
    rw [List.forall_mem_cons, ← ih, joinEach]
    cases text? item <;> cases joinEach text? rest <;> simp

mutual

/-- A node prints exactly when it is supplied. -/
theorem Plain.isSome_text?_iff {sight : Sight} :
    (node : Plain) → ((node.text? sight).isSome ↔ node.IsSupplied sight)
  | .text text => by simp [Plain.IsSupplied]
  | .put way => by
    rw [Plain.text?, Plain.IsSupplied]
    cases sight.value? way with
    | none => simp
    | some value => simpa using isSome_printed?_iff value
  | .each name way body => by
    rw [Plain.text?, Plain.IsSupplied]
    split
    case h_1 items found =>
      -- The array is the one that is found, and each of its turns prints when it is supplied.
      have turns : ∀ item, (textOf? (sight.bind name item) body).isSome ↔
          AreSupplied (sight.bind name item) body := fun _ => isSome_textOf?_iff body
      simp only [isSome_joinEach_iff, turns, found, Option.some.injEq, Json.array.injEq,
        exists_eq_left']
    case h_2 other =>
      -- Nothing but an array is gone through.
      simp only [Option.isSome_none, Bool.false_eq_true, false_iff, not_exists, not_and]
      exact fun items found => absurd found (other items)
  | .choose arms otherwise => by
    rw [Plain.text?, Plain.IsSupplied]
    exact isSome_textOfArms?_iff (isSome_textOf?_iff otherwise) arms

/-- Nodes print exactly when all of them are supplied. -/
theorem isSome_textOf?_iff {sight : Sight} :
    (nodes : List Plain) → ((textOf? sight nodes).isSome ↔ AreSupplied sight nodes)
  | [] => by simp [AreSupplied]
  | node :: rest => by
    rw [AreSupplied, ← node.isSome_text?_iff, ← isSome_textOf?_iff rest, textOf?]
    cases node.text? sight <;> cases textOf? sight rest <;> simp

/-- Arms print exactly when they are supplied, if the same is so for what is printed otherwise. -/
theorem isSome_textOfArms?_iff {sight : Sight} {otherwise : Option String} {supplied : Prop}
    (last : otherwise.isSome ↔ supplied) : (arms : List (Way × List Plain)) →
      ((textOfArms? sight otherwise arms).isSome ↔ ArmsAreSupplied sight supplied arms)
  | [] => by rw [textOfArms?, ArmsAreSupplied, last]
  | (way, body) :: rest => by
    rw [textOfArms?, ArmsAreSupplied]
    split
    case h_1 found => simpa [found] using isSome_textOf?_iff body
    case h_2 found => simpa [found] using isSome_textOfArms?_iff last rest
    case h_3 notTrue notFalse =>
      -- A condition that is no truth value chooses nothing.
      simp only [Option.isSome_none, Bool.false_eq_true, false_iff, not_exists, not_and]
      intro truth found
      cases truth
      · exact absurd found notFalse
      · exact absurd found notTrue

end

end UdsCatalog.Template
