import Mathlib
import UdsCatalog.Proofs.Definition.Outcomes
import UdsCatalog.Proofs.Numeral.Rational
import UdsCatalog.Proofs.Schema.Places

/-!
What the built-in schemas report. A document either conforms to the schema of its table or is refused for
its violations, and every row that is wrong has a violation of its own, which names a place inside of it.
-/

namespace UdsCatalog.Definition

open Schema

/-- A position is a number whose value is an integer from one on. -/
theorem isPosition_iff (value : Json) : IsPosition value ↔
    ∃ (number : JsonNumber) (n : ℤ), value = .number number ∧ number.toRat = n ∧ 1 ≤ n := by
  have least (number : JsonNumber) : compareNumbers number (.int 1) ≠ .lt ↔ 1 ≤ number.toRat := by
    have one : (JsonNumber.int 1).toRat = 1 := Int.cast_one
    rw [ne_eq, compareNumbers_eq_lt_iff, one, not_lt]
  -- Being an integer and being compared are both about the value.
  simp only [IsPosition, least, JsonNumber.isIntegral_iff]
  constructor
  · rintro ⟨number, rfl, ⟨n, same⟩, bound⟩
    exact ⟨number, n, rfl, same, by rw [same] at bound; exact_mod_cast bound⟩
  · rintro ⟨number, n, rfl, same, bound⟩
    exact ⟨number, rfl, ⟨n, same⟩, by rw [same]; exact_mod_cast bound⟩

/-- The rules for a table whose rows obey a schema. -/
def tableRules (key : String) (row : Schema) : Schema :=
  .all [.onlyProperties [(key, .all [.eachItem row, .types [.array]])], .required [key], .types [.object]]

/-- A single field is known by its own schema. -/
theorem schemasOf_single (name : String) {document : Json} {schema : Schema}
    (read : ofSound document = .ok schema) : schemasOf [(name, document)] = .ok [(name, schema)] := by
  rw [schemasOf, read, schemasOf]
  rfl

/-- The schema of a table is read as the rules for a table. -/
theorem ofSound_tableSchema (id title key : String) {properties : List (String × Json)}
    {fields : List (String × (Json → Prop))} {required : List String}
    (columns : ColumnsOf properties fields) (apart : hasRepeats (required.map Json.text) = false) :
    ∃ row, row.Asks (IsClosedObject fields required) ∧
      ofSound (tableSchema id title key properties required) = .ok (tableRules key row) := by
  obtain ⟨-, row, read, asks⟩ := isSchemaOf_closedObject required columns apart
  refine ⟨row, asks, ?_⟩
  -- The notes of the schema make no difference to how it is read.
  refine ((isNote_id id).ofSound [] _).trans ((isNote_rules.ofSound [] _).trans ?_)
  refine ((isNote_title title).ofSound (closedObject _ [key]) [("type", .text "object")]).trans ?_
  exact ofSound_closedObject [key] (schemasOf_single key (ofSound_arrayOf read))

/-- What is said about a row of a table is part of what is said about the document. -/
theorem mem_check_tableRules {key : String} {row : Schema} {place : List Json.Step}
    {entries : List (String × Json)} {rows : List Json} {index : Nat} {value : Json}
    {violation : Violation} (column : (key, .array rows) ∈ entries) (stands : rows[index]? = some value)
    (complains : violation ∈ row.check (place ++ [.field key, .item index]) value) :
    violation ∈ (tableRules key row).check place (.object entries) := by
  -- The table is the first rule of the document, and its items are the first rule of the table.
  have inRows : violation ∈ (Schema.all [.eachItem row, .types [.array]]).check (place ++ [.field key])
      (.array rows) := by
    refine List.mem_append_left _ (mem_checkItems.mpr ⟨index, value, stands, ?_⟩)
    simpa using complains
  refine List.mem_append_left _ (List.mem_append_left _ (mem_checkFields.mpr ⟨key, _, column, ?_⟩))
  simpa [fieldCheckers] using inRows

/-- The message of a violation in a row names the table and the index of the row. -/
theorem message_of_place (kind : Record.Kind) {index : Nat} {below : List Json.Step}
    {violation : Violation} (place : violation.place = .field kind.key :: .item index :: below) :
    violation.message = violation.reason ++ " (at /" ++ kind.key ++ "/" ++ toString index ++
      Json.pointerText below ++ ")" := by
  -- No name of a table has a character that places would write otherwise.
  have key : (Json.Step.field kind.key).toText = "/" ++ kind.key := by cases kind <;> decide +kernel
  have text : Json.pointerText violation.place =
      "/" ++ kind.key ++ "/" ++ toString index ++ Json.pointerText below := by
    rw [place, Json.pointerText, List.map_cons, List.map_cons, String.join_cons, String.join_cons, key,
      Json.pointerText, Json.Step.toText]
    simp only [String.append_assoc]
  have named : (Json.pointerText violation.place == "") = false := by simp [text]
  have opening : " (at /" = " (at " ++ "/" := by decide +kernel
  simp only [Violation.message, named, Bool.false_eq_true, if_false]
  simp only [text, opening, String.append_assoc]

/-- The built-in schema of a table is read as the rules for the table. -/
theorem ofJson_builtInSchema (kind : Record.Kind) : ∃ row, row.Asks (IsRow kind) ∧
    Schema.ofJson (builtInSchema kind) = .ok (tableRules kind.key row) := by
  -- The built-in schema is a table schema, which is read as the rules of a table.
  obtain ⟨id, title, properties, columns, same⟩ := exists_tableSchema kind
  obtain ⟨row, asks, read⟩ :=
    ofSound_tableSchema id title kind.key columns (hasRepeats_requiredColumns kind)
  refine ⟨row, asks, ?_⟩
  rw [Schema.ofJson, (isSchemaOf_builtInSchema kind).1, same]
  exact read

/-- A document of a table is accepted exactly when it conforms to the built-in schema. Otherwise it is
refused for its violations, and among them is one for every row that is wrong, whose message names a place
that there is inside of the row. A position is a number whose value is an integer from one on. -/
theorem ofJson_builtIn_outcome (tree : Files.Tree) (kind : Record.Kind) (path : Files.Path)
    (root : Json) :
    (∀ document, Document.ofJson tree .builtIn kind path root = .ok document ↔
      Conforms kind root ∧ document = ⟨path, root⟩) ∧
    (¬ Conforms kind root → ∃ found,
      Document.ofJson tree .builtIn kind path root = .error (.violations path found) ∧
      ∀ entries rows index row, root = .object entries → (kind.key, Json.array rows) ∈ entries →
        rows[index]? = some row → ¬ IsRow kind row → ∃ violation ∈ found, ∃ below part,
          violation.place = .field kind.key :: .item index :: below ∧ row.HasPart below part ∧
          violation.message = violation.reason ++ " (at /" ++ kind.key ++ "/" ++ toString index ++
            Json.pointerText below ++ ")") ∧
    ∀ value, IsPosition value ↔
      ∃ (number : JsonNumber) (n : ℤ), value = .number number ∧ number.toRat = n ∧ 1 ≤ n := by
  refine ⟨ofJson_builtIn_eq_ok_iff tree kind path root, ?refused, isPosition_iff⟩
  case refused =>
    intro differs
    obtain ⟨rule, asks, compiled⟩ := ofJson_builtInSchema kind
    obtain ⟨schema, same, conforms⟩ := (isSchemaOf_builtInSchema kind).ofJson
    obtain rfl : tableRules kind.key rule = schema := Except.ok.inj (compiled.symm.trans same)
    have violated : (tableRules kind.key rule).violations root ≠ [] := mt (conforms [] root).mp differs
    refine ⟨_, SchemaSource.Offers.builtIn.ofJsonWith_eq_violations
      (compile_standard_of_ofJson compiled) path violated, ?_⟩
    rintro entries rows index row rfl column stands offends
    -- What the schema of rows says about the row is said about the document, at the place of the row.
    obtain ⟨violation, complains, below, part, place, reached⟩ :=
      asks.exists_violation [.field kind.key, .item index] offends
    exact ⟨violation, mem_check_tableRules column stands complains, below, part, place, reached,
      message_of_place kind place⟩

/-- A document of two rows, neither of which is one. -/
def rowlessServices : Json := .object [("Service", .array [.null, .object []])]

/-- Both of two wrong rows have a violation of their own. -/
theorem ofJson_builtIn_outcome_rowless : ∃ found,
    Document.ofJson .empty .builtIn .services "serv.json" rowlessServices =
      .error (.violations "serv.json" found) ∧
    ∀ index < 2, ∃ violation ∈ found, ∃ below,
      violation.place = .field "Service" :: .item index :: below := by
  have wrong : ∀ row ∈ [Json.null, .object []], ¬ IsRow .services row := by
    rintro row member ⟨entries, rfl, complete, -⟩
    obtain rfl : entries = [] := by simpa using member
    exact absurd (complete "Hex" (by decide)) (by decide)
  -- If the document conformed, its first row would.
  have differs : ¬ Conforms .services rowlessServices := by
    rintro ⟨entries, same, -, known⟩
    cases same
    obtain ⟨wanted, column, holds⟩ := known "Service" _ List.mem_cons_self
    obtain rfl : IsArrayOf (IsRow .services) = wanted := Option.some.inj column
    obtain ⟨rows, same, each⟩ := holds
    cases same
    exact wrong .null List.mem_cons_self (each .null List.mem_cons_self)
  -- Each row that is none has a violation of its own place.
  obtain ⟨found, refused, each⟩ :=
    (ofJson_builtIn_outcome .empty .services "serv.json" rowlessServices).2.1 differs
  refine ⟨found, refused, fun index within => ?_⟩
  obtain ⟨violation, member, below, -, place, -⟩ := each _ _ index _ rfl List.mem_cons_self
    (List.getElem?_eq_getElem within) (wrong _ (List.getElem_mem within))
  exact ⟨violation, member, below, place⟩

end UdsCatalog.Definition
