import Mathlib
import UdsCatalog.Definition.Document
import UdsCatalog.Proofs.Schema.Acceptance
import UdsCatalog.Proofs.Schema.Pattern
import UdsCatalog.Proofs.Text.Identifier

/-!
What the built-in schemas let through. Each of them asks for an object with the rows of its table, and
for rows that have the required columns and none but the known ones.
-/

namespace UdsCatalog.Definition

open Schema

/-- A document is a schema, and as such it asks for what is wanted. -/
def IsSchemaOf (document : Json) (wanted : Json → Prop) : Prop :=
  defect? document = none ∧ ∃ schema, ofSound document = .ok schema ∧ schema.Asks wanted

/-- A document that is a schema can be read. -/
theorem IsSchemaOf.ofJson {document : Json} {wanted : Json → Prop}
    (sound : IsSchemaOf document wanted) :
    ∃ schema, Schema.ofJson document = .ok schema ∧ schema.Asks wanted := by
  obtain ⟨none, schema, read, asks⟩ := sound
  exact ⟨schema, by rw [Schema.ofJson, none, read], asks⟩

/-- Each column has the schema of what is wanted there. -/
abbrev ColumnsOf : List (String × Json) → List (String × (Json → Prop)) → Prop :=
  List.Forall₂ fun column wanted => column.1 = wanted.1 ∧ IsSchemaOf column.2 wanted.2

/-- Columns are read one by one. -/
theorem ColumnsOf.schemasOf {properties : List (String × Json)} {fields : List (String × (Json → Prop))}
    (columns : ColumnsOf properties fields) :
    valuesDefect? properties = none ∧
      ∃ known, Schema.schemasOf properties = .ok known ∧ AskEach known fields := by
  induction columns with
  | nil => exact ⟨by simp [valuesDefect?], [], by simp [Schema.schemasOf], .nil⟩
  | @cons column wanted _ _ first _ ih =>
    -- A column has its fault and its schema whatever stands in the others.
    obtain ⟨name, document⟩ := column
    obtain ⟨same, none, schema, read, asks⟩ := first
    obtain ⟨noneLater, known, readLater, each⟩ := ih
    refine ⟨?_, (name, schema) :: known, ?_, .cons ⟨same, asks⟩ each⟩
    · rw [valuesDefect?, none]
      exact noneLater
    · rw [Schema.schemasOf, read, readLater]
      rfl

/-- The rules for schemas are named by an address. -/
theorem isAddress_rules : isAddress "http://json-schema.org/draft-07/schema#" = true := by
  decide +kernel

/-- What a list of names holds. -/
theorem namesOf_texts (names : List String) : namesOf (.array (names.map Json.text)) = names := by
  simp [namesOf, List.filterMap_map]

/-- Names without repetition may be required. -/
theorem namesDefect?_texts {names : List String} (apart : hasRepeats (names.map Json.text) = false) :
    namesDefect? (.array (names.map Json.text)) = none := by
  have texts : (names.map Json.text).findSome? (typeDefect? [.text]) = none := by
    simp [typeDefect?, ValueType.holds]
  rw [namesDefect?, texts, apart]
  rfl

/-- A type has a name of its own. -/
theorem typeOf?_name (type : ValueType) : typeOf? (.text type.name) = some type := by
  cases type <;> decide +kernel

/-- The name of a type names this type alone. -/
theorem typesOf_name (type : ValueType) : typesOf (.text type.name) = [type] := by
  cases type <;> decide +kernel

/-- The keyword of a type demands this type. -/
theorem ruleOf_type (known : Except Defect (Option (List (String × Schema)))) (restricted : Bool)
    (type : ValueType) : ruleOf known restricted "type" (.text type.name) = .ok [.types [type]] := by
  simp [ruleOf, flatRule?, typesOf_name, Except.map]

/-- The name of a type is no fault. -/
theorem typesDefect?_name (type : ValueType) : typesDefect? (.text type.name) = none := by
  simp [typesDefect?, typeOf?_name]

/-- The keyword of a type may hold its name. -/
theorem keywordDefect?_type (type : ValueType) :
    keywordDefect? "type" (.text type.name) = none := by
  simp [keywordDefect?, keywordDefect?.flatDefect?, typesDefect?_name]

/-- A schema of a type alone. -/
theorem isSchemaOf_type {type : ValueType} {wanted : Json → Prop}
    (asks : (Schema.all [.types [type]]).Asks wanted) :
    IsSchemaOf (schemaOf [("type", .text type.name)]) wanted := by
  refine ⟨?_, _, ?_, asks⟩
  · simp [schemaOf, defect?, fieldsDefect?, keywordDefect?_type]
  · simp only [schemaOf, ofSound, rulesOf, ruleOf_type]
    rfl

/-- A schema of one rule and a type. -/
theorem isSchemaOf_typed {keyword : String} {value : Json} (rule : Schema) (type : ValueType)
    {wanted : Json → Prop} (sound : keywordDefect? keyword value = none)
    (read : ∀ known restricted, ruleOf known restricted keyword value = .ok [rule])
    (asks : (Schema.all [rule, .types [type]]).Asks wanted) :
    IsSchemaOf (schemaOf [(keyword, value), ("type", .text type.name)]) wanted := by
  refine ⟨?_, _, ?_, asks⟩
  · simp [schemaOf, defect?, fieldsDefect?, sound, keywordDefect?_type]
  · simp only [schemaOf, ofSound, rulesOf, read, ruleOf_type]
    rfl

/-- The schema of an array is read as a rule for its items. -/
theorem ofSound_arrayOf {fields : List (String × Json)} {each : Schema}
    (read : ofSound (.object fields) = .ok each) :
    ofSound (schemaOf [("items", .object fields), ("type", .text "array")]) =
      .ok (.all [.eachItem each, .types [.array]]) := by
  have typed : typesOf (.text "array") = [.array] := typesOf_name .array
  simp only [schemaOf, ofSound, rulesOf, ruleOf, read, flatRule?, typed]
  rfl

/-- The schema of an array asks for an array of what is wanted. -/
theorem isSchemaOf_arrayOf {fields : List (String × Json)} {wanted : Json → Prop}
    (each : IsSchemaOf (.object fields) wanted) :
    IsSchemaOf (schemaOf [("items", .object fields), ("type", .text "array")]) (IsArrayOf wanted) := by
  obtain ⟨none, schema, read, asks⟩ := each
  refine ⟨?_, _, ofSound_arrayOf read, .arrayOf asks⟩
  have noneInside : fieldsDefect? fields = Option.none := by simpa [defect?] using none
  have typed : typesDefect? (.text "array") = Option.none := typesDefect?_name .array
  simp [schemaOf, defect?, fieldsDefect?, keywordDefect?, keywordDefect?.flatDefect?, noneInside, typed]

/-- The schema of an object without other fields is read as three rules: the fields that are known and the
ban on others are one of them. -/
theorem ofSound_closedObject {properties : List (String × Json)} {known : List (String × Schema)}
    (required : List String) (read : schemasOf properties = .ok known) :
    ofSound (schemaOf (closedObject properties required ++ [("type", .text "object")])) =
      .ok (.all [.onlyProperties known, .required required, .types [.object]]) := by
  have typed : typesOf (.text "object") = [.object] := typesOf_name .object
  simp [schemaOf, closedObject, ofSound, rulesOf, ruleOf, knownOf, restrictsOthers, flatRule?, read,
    namesOf_texts, List.lookup, typed]
  rfl

/-- The schema of an object without other fields asks for such an object. -/
theorem isSchemaOf_closedObject {properties : List (String × Json)}
    {fields : List (String × (Json → Prop))} (required : List String)
    (columns : ColumnsOf properties fields) (apart : hasRepeats (required.map Json.text) = false) :
    IsSchemaOf (schemaOf (closedObject properties required ++ [("type", .text "object")]))
      (IsClosedObject fields required) := by
  obtain ⟨none, known, read, each⟩ := columns.schemasOf
  refine ⟨?_, _, ofSound_closedObject required read, .closedObject each required⟩
  have typed : typesDefect? (.text "object") = Option.none := typesDefect?_name .object
  simp [schemaOf, closedObject, defect?, fieldsDefect?, keywordDefect?, keywordDefect?.flatDefect?,
    typeDefect?, ValueType.holds, none, namesDefect?_texts apart, typed]

/-- A keyword that is allowed and demands nothing. -/
structure IsNote (keyword : String) (value : Json) : Prop where
  sound : keywordDefect? keyword value = none
  silent : ∀ known restricted, ruleOf known restricted keyword value = .ok []
  noProperties : keyword ≠ "properties"
  noOthers : keyword ≠ "additionalProperties"

namespace IsNote

variable {keyword : String} {value : Json} (note : IsNote keyword value)
  (before after : List (String × Json))

include note

/-- A note has no fault. -/
theorem fieldsDefect? : Schema.fieldsDefect? (before ++ (keyword, value) :: after) =
    Schema.fieldsDefect? (before ++ after) := by
  induction before with
  | nil => simp [Schema.fieldsDefect?, note.sound]
  | cons field rest ih => simp [Schema.fieldsDefect?, ih]

/-- A note names no fields. -/
theorem knownOf : Schema.knownOf (before ++ (keyword, value) :: after) =
    Schema.knownOf (before ++ after) := by
  -- Only one keyword names known fields, and the note is another one.
  induction before with
  | nil =>
    rw [List.nil_append, List.nil_append, Schema.knownOf.eq_def]
    simp [note.noProperties]
  | cons field rest ih =>
    obtain ⟨name, content⟩ := field
    rw [List.cons_append, List.cons_append, Schema.knownOf.eq_def, Schema.knownOf.eq_def]
    simp only [ih]

/-- A note does not restrict other fields. -/
theorem restrictsOthers : Schema.restrictsOthers (before ++ (keyword, value) :: after) =
    Schema.restrictsOthers (before ++ after) := by
  have apart : ("additionalProperties" == keyword) = false := beq_false_of_ne note.noOthers.symm
  rw [Schema.restrictsOthers, Schema.restrictsOthers, List.lookup_append, List.lookup_append,
    List.lookup_cons, apart]

/-- A note adds no rule. -/
theorem rulesOf (known : Except Defect (Option (List (String × Schema)))) (restricted : Bool) :
    Schema.rulesOf known restricted (before ++ (keyword, value) :: after) =
      Schema.rulesOf known restricted (before ++ after) := by
  -- The rules in front of the note are read first, and a fault in them ends the reading.
  induction before with
  | nil =>
    simp only [List.nil_append, Schema.rulesOf, note.silent]
    cases Schema.rulesOf known restricted after <;> rfl
  | cons field rest ih =>
    obtain ⟨name, content⟩ := field
    simp only [List.cons_append, Schema.rulesOf, ih]

/-- A note does not change how a schema is read. -/
theorem ofSound : Schema.ofSound (schemaOf (before ++ (keyword, value) :: after)) =
    Schema.ofSound (schemaOf (before ++ after)) := by
  rw [schemaOf, schemaOf, Schema.ofSound, Schema.ofSound, note.knownOf, note.restrictsOthers, note.rulesOf]

/-- A note does not change what a schema asks for. -/
theorem isSchemaOf {wanted : Json → Prop} (plain : IsSchemaOf (schemaOf (before ++ after)) wanted) :
    IsSchemaOf (schemaOf (before ++ (keyword, value) :: after)) wanted := by
  obtain ⟨none, schema, read, asks⟩ := plain
  refine ⟨?_, schema, (note.ofSound before after).trans read, asks⟩
  rw [schemaOf, defect?, note.fieldsDefect?, ← none, schemaOf, defect?]

end IsNote

/-- The name of a schema is a note. -/
theorem isNote_id (id : String) : IsNote "$id" (.text id) where
  sound := by
    simp [keywordDefect?, keywordDefect?.flatDefect?, countKeywords, numberKeywords, typeDefect?,
      ValueType.holds]
  silent known restricted := by simp [ruleOf, flatRule?, Except.map]
  noProperties := by decide
  noOthers := by decide

/-- The title of a schema is a note. -/
theorem isNote_title (title : String) : IsNote "title" (.text title) where
  sound := by
    simp [keywordDefect?, keywordDefect?.flatDefect?, countKeywords, numberKeywords, typeDefect?,
      ValueType.holds]
  silent known restricted := by simp [ruleOf, flatRule?, Except.map]
  noProperties := by decide
  noOthers := by decide

/-- The address of the rules for schemas is a note. -/
theorem isNote_rules : IsNote "$schema" (.text "http://json-schema.org/draft-07/schema#") where
  sound := by simp [keywordDefect?, keywordDefect?.flatDefect?, addressDefect?, isAddress_rules]
  silent known restricted := by simp [ruleOf, flatRule?, Except.map]
  noProperties := by decide
  noOthers := by decide

/-- The schema of a table asks for an object with the rows in its one field. -/
theorem isSchemaOf_tableSchema (id title key : String) {properties : List (String × Json)}
    {fields : List (String × (Json → Prop))} {required : List String}
    (columns : ColumnsOf properties fields) (apart : hasRepeats (required.map Json.text) = false) :
    IsSchemaOf (tableSchema id title key properties required)
      (IsClosedObject [(key, IsArrayOf (IsClosedObject fields required))] [key]) := by
  have rows : ColumnsOf [(key, _)] [(key, IsArrayOf (IsClosedObject fields required))] :=
    .cons ⟨rfl, isSchemaOf_arrayOf (isSchemaOf_closedObject _ columns apart)⟩ .nil
  have plain := isSchemaOf_closedObject [key] rows rfl
  -- The notes stand where the order of the names puts them.
  have titled := (isNote_title title).isSchemaOf (closedObject _ [key]) [("type", .text "object")] plain
  exact (isNote_id id).isSchemaOf [] _ (isNote_rules.isSchemaOf [] _ titled)

/-- The schema of any text. -/
theorem isSchemaOf_anyText : IsSchemaOf anyText (IsText fun _ => True) := isSchemaOf_type .text

/-- A number that is written as an integer is compared as one. -/
theorem compareNumbers_int (a b : Int) : compareNumbers (.int a) (.int b) = compare a b := by
  simp [compareNumbers]

/-- The schema of a text that is not empty. -/
theorem isSchemaOf_someText : IsSchemaOf someText (IsText (· ≠ "")) := by
  refine isSchemaOf_typed (.minLength 1) .text ?_ ?_ (.textOf ?_)
  · have natural : compareNumbers (.int 1) (.int 0) ≠ .lt := by rw [compareNumbers_int]; decide
    simp [Json.int, keywordDefect?, keywordDefect?.flatDefect?, countKeywords, countDefect?, natural,
      typeDefect?, ValueType.holds, JsonNumber.isIntegral]
  · intro known restricted
    simp [ruleOf, flatRule?, countOf, Json.int, Except.map]
  · refine (Asks.minLength 1).congr ?_
    intro value
    -- A text has a character unless it is empty.
    simp only [Nat.one_le_iff_ne_zero, Ne, String.length_eq_zero_iff]

/-- The pattern of an identifier, as it is read. -/
def identifierRule : Pattern :=
  .wholeRun (.either (.range 65 90) (.either (.range 97 122) (.range 95 95)))
    (.either (.range 65 90) (.either (.range 97 122) (.either (.range 48 57) (.range 95 95))))

/-- The text of the pattern is read so. -/
theorem ofText?_identifierPattern : Pattern.ofText? identifierPattern = some identifierRule := by
  decide +kernel

/-- The pattern matches identifiers and nothing else. -/
theorem examine_identifierRule_iff (text : String) :
    identifierRule.examine text = .matching ↔ Text.isIdentifier text = true := by
  -- On both sides the characters are ranges of codes.
  have first : ∀ c : Char, CharSet.holds (.either (.range 65 90) (.either (.range 97 122) (.range 95 95))) c =
      Text.beginsIdentifier c := by
    intro c
    obtain ⟨upper, lower, digit, low⟩ := Text.classes_iff c
    rw [Bool.eq_iff_iff]
    simp only [CharSet.holds, CharSet.holdsCode, Text.beginsIdentifier, Char.isAlpha, Bool.or_eq_true,
      Bool.and_eq_true, decide_eq_true_eq, beq_iff_eq, upper, lower, low]
    omega
  have further : ∀ c : Char, CharSet.holds (.either (.range 65 90) (.either (.range 97 122)
      (.either (.range 48 57) (.range 95 95)))) c = Text.continuesIdentifier c := by
    intro c
    obtain ⟨upper, lower, digit, low⟩ := Text.classes_iff c
    rw [Bool.eq_iff_iff]
    simp only [CharSet.holds, CharSet.holdsCode, Text.continuesIdentifier, Char.isAlphanum, Char.isAlpha,
      Bool.or_eq_true, Bool.and_eq_true, decide_eq_true_eq, beq_iff_eq, upper, lower, digit, low]
    omega
  rw [identifierRule, Pattern.examine_wholeRun_iff, Text.isIdentifier_iff]
  simp only [first, further]

/-- The schema of an identifier. -/
theorem isSchemaOf_identifierText :
    IsSchemaOf identifierText (IsText (Text.isIdentifier · = true)) := by
  refine isSchemaOf_typed (.matching identifierPattern identifierRule) .text ?_ ?_
    (.textOf ?_)
  · simp [keywordDefect?, keywordDefect?.flatDefect?, patternDefect?, ofText?_identifierPattern]
  · intro known restricted
    simp [ruleOf, flatRule?, ofText?_identifierPattern, Except.map]
  -- The pattern matches the whole text exactly when the text is an identifier.
  · refine (Asks.matching _ _).congr ?_
    intro value
    simp only [examine_identifierRule_iff]

/-- The tags of directions. -/
def directionTags : List String := ["Req", "PosResp", "NegResp"]

/-- Only a text is equal to a text. -/
theorem equal_text_iff (value : Json) (text : String) :
    value.equal (.text text) = true ↔ value = .text text := by
  cases value <;> simp [Json.equal]

/-- The schema of the tag of a direction. -/
theorem isSchemaOf_directionTag : IsSchemaOf directionTag (IsText (· ∈ directionTags)) := by
  refine isSchemaOf_typed (.among (directionTags.map Json.text)) .text ?_ ?_ ?_
  · simp [keywordDefect?, keywordDefect?.flatDefect?, typeDefect?, ValueType.holds]
  · intro known restricted
    simp [ruleOf, flatRule?, directionTags, Except.map]
  · -- What is equal to one of the tags is this text itself.
    refine ((Asks.among _).rule ((Asks.types _).rule .noRules)).congr ?_
    intro value
    simp only [List.mem_map, exists_exists_and_eq_and, equal_text_iff]
    cases value <;> simp [IsText, ValueType.holds]

/-- A position as documents may write it: an integral number that is at least one. -/
def IsPosition (value : Json) : Prop :=
  ∃ number, value = .number number ∧ number.isIntegral = true ∧
    compareNumbers number (.int 1) ≠ .lt

/-- The schema of a position. -/
theorem isSchemaOf_position : IsSchemaOf position IsPosition := by
  refine isSchemaOf_typed (.minimum (.int 1)) .integer ?_ ?_ ?_
  · simp [Json.int, keywordDefect?, keywordDefect?.flatDefect?, countKeywords, numberKeywords,
      typeDefect?, ValueType.holds]
  · intro known restricted
    simp [ruleOf, flatRule?, Json.int, Except.map]
  -- The two rules speak of the same number, so their order does not matter.
  · refine ((Asks.minimum _).rule ((Asks.types _).rule .noRules)).congr ?_
    intro value
    cases value <;> simp [IsPosition, ValueType.holds, and_comm]

/-- The columns of a table, and what is wanted in each of them. -/
def columns : Record.Kind → List (String × (Json → Prop))
  | .services =>
    [("DefaultSession", IsText fun _ => True), ("Hex", IsText (· ≠ "")),
      ("NameForProgrammer", IsText (Text.isIdentifier · = true)),
      ("NonDefaultSession", IsText fun _ => True), ("ShortName", IsText fun _ => True)]
  | .subFunctions =>
    [("Bit6to0", IsText (· ≠ "")), ("Details", IsText fun _ => True), ("Mnemonic", IsText fun _ => True),
      ("ServiceNameForProgrammer", IsText fun _ => True), ("ShortName", IsText fun _ => True),
      ("SubFunctionNameForProgrammer", IsText (Text.isIdentifier · = true))]
  | .layouts =>
    [("DataByte", IsPosition), ("Details", IsText fun _ => True), ("MemClassName", IsText fun _ => True),
      ("NameForProgrammer", IsText (Text.isIdentifier · = true)), ("ReqResp", IsText (· ∈ directionTags)),
      ("Size", IsText (· ≠ ""))]

/-- The columns that every row of a table has. -/
def requiredColumns : Record.Kind → List String
  | .services => ["NameForProgrammer", "ShortName", "Hex", "DefaultSession", "NonDefaultSession"]
  | .subFunctions =>
    ["ServiceNameForProgrammer", "SubFunctionNameForProgrammer", "Bit6to0", "ShortName", "Mnemonic",
      "Details"]
  | .layouts => ["MemClassName", "NameForProgrammer", "ReqResp", "DataByte", "Size"]

/-- A row of a table as its schema has it. -/
abbrev IsRow (kind : Record.Kind) : Json → Prop := IsClosedObject (columns kind) (requiredColumns kind)

/-- A document that conforms to the built-in schema of its table. -/
abbrev Conforms (kind : Record.Kind) : Json → Prop :=
  IsClosedObject [(kind.key, IsArrayOf (IsRow kind))] [kind.key]

/-- No required column is named twice. -/
theorem hasRepeats_requiredColumns (kind : Record.Kind) :
    hasRepeats ((requiredColumns kind).map Json.text) = false := by
  cases kind <;> decide +kernel

/-- The built-in schema of a table has the columns of the table. -/
theorem exists_tableSchema (kind : Record.Kind) :
    ∃ id title properties, ColumnsOf properties (columns kind) ∧
      builtInSchema kind = tableSchema id title kind.key properties (requiredColumns kind) := by
  -- The columns of a table stand in the order of their names, and each has its own kind of schema.
  cases kind with
  | services =>
    refine ⟨_, _, _, ?_, rfl⟩
    exact .cons ⟨rfl, isSchemaOf_anyText⟩ (.cons ⟨rfl, isSchemaOf_someText⟩
      (.cons ⟨rfl, isSchemaOf_identifierText⟩ (.cons ⟨rfl, isSchemaOf_anyText⟩
        (.cons ⟨rfl, isSchemaOf_anyText⟩ .nil))))
  | subFunctions =>
    refine ⟨_, _, _, ?_, rfl⟩
    exact .cons ⟨rfl, isSchemaOf_someText⟩ (.cons ⟨rfl, isSchemaOf_anyText⟩
      (.cons ⟨rfl, isSchemaOf_anyText⟩ (.cons ⟨rfl, isSchemaOf_anyText⟩
        (.cons ⟨rfl, isSchemaOf_anyText⟩ (.cons ⟨rfl, isSchemaOf_identifierText⟩ .nil)))))
  | layouts =>
    refine ⟨_, _, _, ?_, rfl⟩
    exact .cons ⟨rfl, isSchemaOf_position⟩ (.cons ⟨rfl, isSchemaOf_anyText⟩
      (.cons ⟨rfl, isSchemaOf_anyText⟩ (.cons ⟨rfl, isSchemaOf_identifierText⟩
        (.cons ⟨rfl, isSchemaOf_directionTag⟩ (.cons ⟨rfl, isSchemaOf_someText⟩ .nil)))))

/-- The built-in schema of a table asks for documents that conform. -/
theorem isSchemaOf_builtInSchema (kind : Record.Kind) :
    IsSchemaOf (builtInSchema kind) (Conforms kind) := by
  obtain ⟨id, title, properties, columns, same⟩ := exists_tableSchema kind
  rw [same]
  exact isSchemaOf_tableSchema id title kind.key columns (hasRepeats_requiredColumns kind)

/-- The built-in schema of a table is found under its file name. -/
theorem find_builtIn (tree : Files.Tree) (kind : Record.Kind) :
    SchemaSource.builtIn.find tree (schemaFile kind) =
      .ok (builtInDirectory.join (schemaFile kind), builtInSchema kind) := by
  have found : builtInSchema? (schemaFile kind) = some (builtInSchema kind) := by
    cases kind <;> rfl
  rw [SchemaSource.find, found]

/-- A schema that is read compiles to what it is read as. -/
theorem compile_standard_of_ofJson {document : Json} {schema : Schema}
    (read : Schema.ofJson document = .ok schema) :
    Schema.Validator.standard.compile document = .ok schema := by
  simp only [read, Except.mapError]

/-- With the built-in schemas, the documents of a table are those that conform. -/
theorem ofJson_builtIn_eq_ok_iff (tree : Files.Tree) (kind : Record.Kind) (path : Files.Path)
    (root : Json) (document : Document) :
    Document.ofJson tree .builtIn kind path root = .ok document ↔
      Conforms kind root ∧ document = ⟨path, root⟩ := by
  obtain ⟨schema, read, asks⟩ := (isSchemaOf_builtInSchema kind).ofJson
  have conforms : schema.violations root = [] ↔ Conforms kind root := asks [] root
  have compiled : ∀ schemaPath, compileWith .standard schemaPath (builtInSchema kind) = .ok schema := by
    intro schemaPath
    rw [compileWith, compile_standard_of_ofJson read]
  -- Only the violations are left to decide.
  simp only [Document.ofJson, Document.ofJsonWith, find_builtIn, compiled, Bind.bind, Except.bind,
    ← conforms]
  cases schema.violations root with
  | nil => simp [Pure.pure, Except.pure, eq_comm]
  | cons violation rest => simp [throw, throwThe, MonadExceptOf.throw]

end UdsCatalog.Definition
