import Mathlib
import UdsCatalog.Proofs.Catalog.Reading
import UdsCatalog.Proofs.Definition.Tables
import UdsCatalog.Proofs.Steps

/-!
Records of documents that conform to their schemas. A schema and the form of its records agree on every
column but the position, where the schema also lets through what is no integer of 32 bits.
-/

namespace UdsCatalog

namespace Record

/-- What a field of a kind may hold. -/
def FieldKind.Holds : FieldKind → Json → Prop
  | .text, value => ∃ text, value = .text text
  | .optionalText, value => value = .null ∨ ∃ text, value = .text text
  | .word, value => ∃ number : Int, value = .number (.int number) ∧ 0 ≤ number ∧ number < wordBound

/-- A value passes the check of a field when the field may hold it. -/
theorem FieldKind.check_eq_ok_iff (kind : FieldKind) (value : Json) :
    kind.check value = .ok () ↔ kind.Holds value := by
  cases kind with
  | text => cases value <;> simp [check, Holds]
  | optionalText => cases value <;> simp [check, Holds]
  | word =>
    -- Only an integer can be a word, and for one of them the bounds decide.
    cases value with
    | number number =>
      cases number with
      | int number => by_cases fits : 0 ≤ number ∧ number < wordBound <;> simp [check, Holds, fits]
      | float number => simp [check, Holds]
    | _ => simp [check, Holds]

/-- A text passes the check of a field of texts. -/
@[simp] theorem FieldKind.check_text (text : String) : FieldKind.text.check (.text text) = .ok () := rfl

/-- A text passes the check of a field that may be empty. -/
@[simp] theorem FieldKind.check_optionalText (text : String) :
    FieldKind.optionalText.check (.text text) = .ok () := rfl

/-- A text may stand in every field but a word. -/
theorem FieldKind.holds_text {kind : FieldKind} (apart : kind ≠ .word) (text : String) :
    kind.Holds (.text text) := by
  cases kind with
  | text => exact ⟨text, rfl⟩
  | optionalText => exact .inr ⟨text, rfl⟩
  | word => exact absurd rfl apart

/-- Fields pass the check of a form when each of them holds what it may. -/
theorem Form.checkFields_eq_ok_iff (form : Form) (fields : List (String × Json)) :
    form.checkFields fields = .ok () ↔ ∀ name value, (name, value) ∈ fields →
      ∀ kind, form.fields.lookup name = some kind → kind.Holds value := by
  -- Fields are checked in their order, and the first one that does not fit ends the check.
  induction fields with
  | nil => simp [checkFields]
  | cons field rest ih =>
    obtain ⟨name, value⟩ := field
    -- What is asked of all fields is asked of the first and of the others.
    have head : (∀ other found, (other, found) ∈ (name, value) :: rest →
        ∀ kind, form.fields.lookup other = some kind → kind.Holds found) ↔
        (∀ kind, form.fields.lookup name = some kind → kind.Holds value) ∧
          form.checkFields rest = .ok () := by
      rw [ih]
      constructor
      · intro all
        exact ⟨all name value (by simp), fun other found member => all other found (by simp [member])⟩
      · rintro ⟨here, later⟩ other found member
        rcases List.mem_cons.mp member with same | member
        · cases same
          exact here
        · exact later other found member
    -- A column without a kind is not checked.
    rw [head, checkFields]
    cases known : form.fields.lookup name with
    | none => simp
    | some kind =>
      cases verdict : kind.check value with
      | ok => simp [← kind.check_eq_ok_iff, verdict]
      | error malformed => simp [← kind.check_eq_ok_iff, verdict]

/-- An object is read as its fields when they pass the check. -/
theorem Form.read_object_eq_ok_iff (form : Form) (fields found : List (String × Json)) :
    form.read (.object fields) = .ok found ↔ form.checkFields fields = .ok () ∧ found = fields := by
  rw [Form.read]
  cases form.checkFields fields <;> simp [eq_comm]

/-- A required text is the first one of its name. -/
theorem textIn_eq_ok_iff (fields : List (String × Json)) (name text : String) :
    textIn fields name = .ok text ↔ fields.lookup name = some (.text text) := by
  rw [textIn]
  cases found : fields.lookup name with
  | none => simp
  | some value => cases value <;> simp

/-- A required word is the first one of its name. -/
theorem wordIn_eq_ok_iff (fields : List (String × Json)) (name : String) (word : Nat) :
    wordIn fields name = .ok word ↔
      (word : Int) < wordBound ∧ fields.lookup name = some (.number (.int word)) := by
  -- Only an integer can be a word, and the two bounds are those of the reader.
  rw [wordIn]
  cases found : fields.lookup name with
  | none => simp
  | some value =>
    cases value with
    | number number =>
      cases number with
      | int number =>
        by_cases fits : 0 ≤ number ∧ number < wordBound
        · simp [fits]
          omega
        · simp [fits]
          omega
      | float number => simp
    | _ => simp

/-- All rows are read one by one. -/
theorem readAll_eq_mapM {ρ : Type} (read : Json → Except Malformed ρ) (rows : List Json) :
    readAll read rows = rows.mapM read := by
  induction rows with
  | nil => rfl
  | cons row rest ih => rw [readAll, List.mapM_cons, ih]

/-- A row of the service table is read from its fields. -/
theorem Service.ofJson_eq_ok_iff (fields : List (String × Json)) (record : Service) :
    Service.ofJson (.object fields) = .ok record ↔ Service.form.checkFields fields = .ok () ∧
      textIn fields "NameForProgrammer" = .ok record.name ∧
      textIn fields "ShortName" = .ok record.shortName ∧ textIn fields "Hex" = .ok record.hex ∧
      textIn fields "DefaultSession" = .ok record.defaultSession ∧
      textIn fields "NonDefaultSession" = .ok record.nonDefaultSession := by
  obtain ⟨name, shortName, hex, defaultSession, nonDefaultSession⟩ := record
  -- Each step of reading ends the whole when it fails, so all of them have succeeded.
  simp only [Service.ofJson, bind_eq_ok_iff, Form.read_object_eq_ok_iff, Pure.pure, Except.pure,
    Except.ok.injEq, Service.mk.injEq]
  constructor
  · rintro ⟨_, ⟨checked, rfl⟩, _, first, _, second, _, third, _, fourth, _, fifth,
      rfl, rfl, rfl, rfl, rfl⟩
    exact ⟨checked, first, second, third, fourth, fifth⟩
  · rintro ⟨checked, first, second, third, fourth, fifth⟩
    exact ⟨_, ⟨checked, rfl⟩, _, first, _, second, _, third, _, fourth, _, fifth,
      rfl, rfl, rfl, rfl, rfl⟩

/-- A row of the sub-function table is read from its fields. -/
theorem SubFunction.ofJson_eq_ok_iff (fields : List (String × Json)) (record : SubFunction) :
    SubFunction.ofJson (.object fields) = .ok record ↔ SubFunction.form.checkFields fields = .ok () ∧
      textIn fields "ServiceNameForProgrammer" = .ok record.owner ∧
      textIn fields "SubFunctionNameForProgrammer" = .ok record.name ∧
      textIn fields "Bit6to0" = .ok record.values ∧ textIn fields "ShortName" = .ok record.shortName ∧
      textIn fields "Mnemonic" = .ok record.mnemonic ∧ textIn fields "Details" = .ok record.details := by
  -- The form is checked first, and then one text after the other is taken from the fields.
  obtain ⟨owner, name, values, shortName, mnemonic, details⟩ := record
  simp only [SubFunction.ofJson, bind_eq_ok_iff, Form.read_object_eq_ok_iff, Pure.pure, Except.pure,
    Except.ok.injEq, SubFunction.mk.injEq]
  constructor
  · rintro ⟨_, ⟨checked, rfl⟩, _, first, _, second, _, third, _, fourth, _, fifth, _, sixth,
      rfl, rfl, rfl, rfl, rfl, rfl⟩
    exact ⟨checked, first, second, third, fourth, fifth, sixth⟩
  · rintro ⟨checked, first, second, third, fourth, fifth, sixth⟩
    exact ⟨_, ⟨checked, rfl⟩, _, first, _, second, _, third, _, fourth, _, fifth, _, sixth,
      rfl, rfl, rfl, rfl, rfl, rfl⟩

/-- A row of the layout table is read from its fields. -/
theorem Layout.ofJson_eq_ok_iff (fields : List (String × Json)) (record : Layout) :
    Layout.ofJson (.object fields) = .ok record ↔ Layout.form.checkFields fields = .ok () ∧
      textIn fields "MemClassName" = .ok record.className ∧
      textIn fields "NameForProgrammer" = .ok record.name ∧
      textIn fields "ReqResp" = .ok record.direction ∧
      wordIn fields "DataByte" = .ok record.dataByte ∧ textIn fields "Size" = .ok record.size ∧
      optionalTextIn fields "Details" = .ok record.details := by
  -- As for the other tables, but one field holds a number and one may be missing.
  obtain ⟨className, name, direction, dataByte, size, details⟩ := record
  simp only [Layout.ofJson, bind_eq_ok_iff, Form.read_object_eq_ok_iff, Pure.pure, Except.pure,
    Except.ok.injEq, Layout.mk.injEq]
  constructor
  · rintro ⟨_, ⟨checked, rfl⟩, _, first, _, second, _, third, _, fourth, _, fifth, _, sixth,
      rfl, rfl, rfl, rfl, rfl, rfl⟩
    exact ⟨checked, first, second, third, fourth, fifth, sixth⟩
  · rintro ⟨checked, first, second, third, fourth, fifth, sixth⟩
    exact ⟨_, ⟨checked, rfl⟩, _, first, _, second, _, third, _, fourth, _, fifth, _, sixth,
      rfl, rfl, rfl, rfl, rfl, rfl⟩

/-- The form of the rows of a table. -/
def Kind.form : Kind → Form
  | .services => Service.form
  | .subFunctions => SubFunction.form
  | .layouts => Layout.form

end Record

namespace Definition

open Schema Record

variable {kind : Kind} {fields : List (String × Json)} {root : Json}

/-- The fields of a row are columns of its table. -/
theorem IsRow.known (row : IsRow kind (.object fields)) {name : String} {value : Json}
    (member : (name, value) ∈ fields) : IsKnownField (columns kind) name value := by
  obtain ⟨entries, same, -, known⟩ := row
  cases same
  exact known name value member

/-- A required column of a row holds what is wanted there. -/
theorem IsRow.exists_lookup (row : IsRow kind (.object fields)) (name : String)
    (required : name ∈ requiredColumns kind) :
    ∃ value, fields.lookup name = some value ∧ IsKnownField (columns kind) name value := by
  obtain ⟨entries, same, present, known⟩ := row
  cases same
  obtain ⟨value, found⟩ := Option.isSome_iff_exists.mp (present name required)
  exact ⟨value, found, known name value (mem_of_lookup found)⟩

/-- The text in a required column of texts. -/
theorem IsRow.textIn (row : IsRow kind (.object fields)) (name : String) {wanted : String → Prop}
    (required : name ∈ requiredColumns kind) (column : (columns kind).lookup name = some (IsText wanted)) :
    ∃ text, Record.textIn fields name = .ok text ∧ wanted text := by
  obtain ⟨value, found, other, same, holds⟩ := row.exists_lookup name required
  obtain rfl : other = IsText wanted := Option.some.inj (same.symm.trans column)
  obtain ⟨text, rfl, kind⟩ := holds
  exact ⟨text, (textIn_eq_ok_iff fields name text).mpr found, kind⟩

/-- Every column but the position holds texts. -/
theorem exists_text_of_column {name : String} {wanted : Json → Prop}
    (column : (name, wanted) ∈ columns kind) (apart : name ≠ "DataByte") {value : Json}
    (holds : wanted value) : ∃ text, value = .text text := by
  -- All columns but the one of positions ask for texts of some kind.
  have texts : ∀ column ∈ columns kind, column.1 ≠ "DataByte" →
      ∃ kind, column.2 = IsText kind := by
    cases kind <;> simp [columns]
  obtain ⟨texts, same⟩ := texts _ column apart
  obtain rfl : wanted = IsText texts := same
  obtain ⟨text, same, -⟩ := holds
  exact ⟨text, same⟩

/-- Only the positions of layouts are words. -/
theorem lookup_form_eq_word_iff (name : String) :
    kind.form.fields.lookup name = some .word ↔ kind = .layouts ∧ name = "DataByte" := by
  constructor
  · intro found
    have member : (name, FieldKind.word) ∈ kind.form.fields := mem_of_lookup found
    -- Of the three forms only that of layouts has a word, and only once.
    cases kind with
    | services => simp [Kind.form, Service.form] at member
    | subFunctions => simp [Kind.form, SubFunction.form] at member
    | layouts => simpa [Kind.form, Layout.form] using member
  · rintro ⟨rfl, rfl⟩
    rfl

/-- Only rows of layouts have a position, and it is one that the schema lets through. -/
theorem IsRow.position (row : IsRow kind (.object fields)) {value : Json}
    (member : ("DataByte", value) ∈ fields) : kind = .layouts ∧ IsPosition value := by
  -- Only the table of layouts has such a column, and its kind of value is fixed there.
  obtain ⟨wanted, column, holds⟩ := row.known member
  cases kind with
  | services => cases column
  | subFunctions => cases column
  | layouts =>
    obtain rfl : IsPosition = wanted := Option.some.inj column
    exact ⟨rfl, holds⟩

/-- The fields of a row pass the check of the form when every position is a word. -/
theorem IsRow.checkFields_eq_ok_iff (row : IsRow kind (.object fields)) :
    kind.form.checkFields fields = .ok () ↔
      ∀ value, ("DataByte", value) ∈ fields → FieldKind.word.Holds value := by
  rw [Form.checkFields_eq_ok_iff]
  constructor
  · intro each value member
    obtain ⟨layouts, -⟩ := row.position member
    exact each _ value member .word ((lookup_form_eq_word_iff _).mpr ⟨layouts, rfl⟩)
  · intro words name value member fieldKind found
    by_cases position : name = "DataByte"
    · subst position
      obtain ⟨rfl, -⟩ := row.position member
      -- In the form of layouts this column is a word.
      obtain rfl : FieldKind.word = fieldKind := Option.some.inj found
      exact words value member
    · -- Any other column holds a text, which its field may hold as well.
      obtain ⟨wanted, column, holds⟩ := row.known member
      obtain ⟨text, rfl⟩ := exists_text_of_column (mem_of_lookup column) position holds
      have noWord : fieldKind ≠ .word := by
        rintro rfl
        exact position ((lookup_form_eq_word_iff name).mp found).2
      exact FieldKind.holds_text noWord text

/-- A row of services is always a record. -/
theorem IsRow.exists_service (row : IsRow .services (.object fields)) :
    ∃ record, Service.ofJson (.object fields) = .ok record := by
  -- A row of services has no position on which the check could fail.
  have checked : Service.form.checkFields fields = .ok () := by
    refine row.checkFields_eq_ok_iff.mpr ?_
    intro value member
    cases (row.position member).1
  obtain ⟨name, hasName, -⟩ := row.textIn "NameForProgrammer" (by decide) rfl
  obtain ⟨shortName, hasShortName, -⟩ := row.textIn "ShortName" (by decide) rfl
  obtain ⟨hex, hasHex, -⟩ := row.textIn "Hex" (by decide) rfl
  obtain ⟨inside, hasInside, -⟩ := row.textIn "DefaultSession" (by decide) rfl
  obtain ⟨outside, hasOutside, -⟩ := row.textIn "NonDefaultSession" (by decide) rfl
  exact ⟨⟨name, shortName, hex, inside, outside⟩, (Service.ofJson_eq_ok_iff fields _).mpr
    ⟨checked, hasName, hasShortName, hasHex, hasInside, hasOutside⟩⟩

/-- A row of sub-functions is always a record. -/
theorem IsRow.exists_subFunction (row : IsRow .subFunctions (.object fields)) :
    ∃ record, SubFunction.ofJson (.object fields) = .ok record := by
  -- No field of this table is a number, so the check of the form has nothing to refuse.
  have checked : SubFunction.form.checkFields fields = .ok () := by
    refine row.checkFields_eq_ok_iff.mpr ?_
    intro value member
    cases (row.position member).1
  obtain ⟨owner, hasOwner, -⟩ := row.textIn "ServiceNameForProgrammer" (by decide) rfl
  obtain ⟨name, hasName, -⟩ := row.textIn "SubFunctionNameForProgrammer" (by decide) rfl
  obtain ⟨values, hasValues, -⟩ := row.textIn "Bit6to0" (by decide) rfl
  obtain ⟨shortName, hasShortName, -⟩ := row.textIn "ShortName" (by decide) rfl
  obtain ⟨mnemonic, hasMnemonic, -⟩ := row.textIn "Mnemonic" (by decide) rfl
  obtain ⟨details, hasDetails, -⟩ := row.textIn "Details" (by decide) rfl
  exact ⟨⟨owner, name, values, shortName, mnemonic, details⟩, (SubFunction.ofJson_eq_ok_iff fields _).mpr
    ⟨checked, hasOwner, hasName, hasValues, hasShortName, hasMnemonic, hasDetails⟩⟩

/-- The details of a row of layouts are a text or missing. -/
theorem IsRow.details (row : IsRow .layouts (.object fields)) :
    ∃ details, optionalTextIn fields "Details" = .ok details := by
  rw [optionalTextIn]
  -- What stands there must be a text, since the schema does not let a null through.
  cases found : fields.lookup "Details" with
  | none => exact ⟨none, rfl⟩
  | some value =>
    obtain ⟨wanted, column, holds⟩ := row.known (mem_of_lookup found)
    obtain ⟨text, rfl⟩ := exists_text_of_column (mem_of_lookup column) (by decide) holds
    exact ⟨some text, rfl⟩

/-- A row of layouts is a record when its positions are words. -/
theorem IsRow.exists_layout_iff (row : IsRow .layouts (.object fields)) :
    (∃ record, Layout.ofJson (.object fields) = .ok record) ↔
      ∀ value, ("DataByte", value) ∈ fields → FieldKind.word.Holds value := by
  have checked : Layout.form.checkFields fields = .ok () ↔
      ∀ value, ("DataByte", value) ∈ fields → FieldKind.word.Holds value :=
    row.checkFields_eq_ok_iff
  rw [← checked]
  constructor
  · rintro ⟨record, read⟩
    exact ((Layout.ofJson_eq_ok_iff fields record).mp read).1
  · intro passes
    -- The row has its texts in any case.
    obtain ⟨className, hasClassName, -⟩ := row.textIn "MemClassName" (by decide) rfl
    obtain ⟨name, hasName, -⟩ := row.textIn "NameForProgrammer" (by decide) rfl
    obtain ⟨direction, hasDirection, -⟩ := row.textIn "ReqResp" (by decide) rfl
    obtain ⟨size, hasSize, -⟩ := row.textIn "Size" (by decide) rfl
    obtain ⟨details, hasDetails⟩ := row.details
    -- The position that is read is among the fields, so the check has made it a word.
    obtain ⟨value, found, -⟩ := row.exists_lookup "DataByte" (by decide)
    obtain ⟨number, rfl, natural, small⟩ := checked.mp passes value (mem_of_lookup found)
    obtain ⟨word, rfl⟩ := Int.eq_ofNat_of_zero_le natural
    have hasWord : wordIn fields "DataByte" = .ok word :=
      (wordIn_eq_ok_iff fields _ word).mpr ⟨small, found⟩
    exact ⟨⟨className, name, direction, word, size, details⟩, (Layout.ofJson_eq_ok_iff fields _).mpr
      ⟨passes, hasClassName, hasName, hasDirection, hasWord, hasSize, hasDetails⟩⟩

/-- A position that the schema lets through is a word when it is written as an integer that is small
enough. -/
theorem IsPosition.word_iff {value : Json} (position : IsPosition value) :
    FieldKind.word.Holds value ↔ ∃ number : Int, value = .number (.int number) ∧ number < wordBound := by
  constructor
  · rintro ⟨number, same, -, small⟩
    exact ⟨number, same, small⟩
  · rintro ⟨number, rfl, small⟩
    -- The schema has asked for at least one, so no word is lost at the lower bound.
    obtain ⟨other, same, -, least⟩ := position
    cases same
    rw [compareNumbers_int, Ne, compare_lt_iff_lt] at least
    exact ⟨number, rfl, by omega, small⟩

/-- A document that conforms holds an array of rows, and its records are read from them. -/
theorem Conforms.exists_rows (conforms : Conforms kind root) :
    ∃ rows, root.get? kind.key = some (.array rows) ∧ (∀ row ∈ rows, IsRow kind row) ∧
      ∀ {ρ : Type} (read : Json → Except Malformed ρ), readTable kind read root = rows.mapM read := by
  obtain ⟨entries, rfl, present, known⟩ := conforms
  obtain ⟨value, found⟩ := Option.isSome_iff_exists.mp (present kind.key (by simp))
  obtain ⟨wanted, column, holds⟩ := known kind.key value (mem_of_lookup found)
  -- The field of the table is the only one that a document has.
  obtain rfl : IsArrayOf (IsRow kind) = wanted := by
    simpa [List.lookup] using column
  obtain ⟨rows, rfl, each⟩ := holds
  refine ⟨rows, found, each, ?_⟩
  intro ρ read
  simp only [readTable, found, readRows, readAll_eq_mapM]

/-- Some row of a layout document has a value as its position. -/
def HoldsPosition (root value : Json) : Prop :=
  ∃ rows fields, root.get? Kind.layouts.key = some (.array rows) ∧ .object fields ∈ rows ∧
    ("DataByte", value) ∈ fields

/-- A number that is written as an integer, without fraction and exponent, and fits 32 bits without a
sign. -/
def IsWord (value : Json) : Prop := ∃ number : Int, value = .number (.int number) ∧ number ≤ 4294967295

/-- A position of a conforming document may stand in a record when it is a word. -/
theorem Conforms.holds_word_iff (conforms : Conforms .layouts root) {value : Json}
    (held : HoldsPosition root value) : FieldKind.word.Holds value ↔ IsWord value := by
  obtain ⟨rows, fields, found, row, member⟩ := held
  obtain ⟨others, same, each, -⟩ := conforms.exists_rows
  obtain rfl : others = rows := by simpa [same] using found
  have position : IsPosition value := (IsRow.position (each _ row) member).2
  rw [position.word_iff]
  -- Both bounds say the same of integers.
  refine exists_congr fun number => and_congr_right fun _ => ?_
  show number < 0x1_0000_0000 ↔ number ≤ 4294967295
  omega

/-- The services of a conforming document are records. -/
theorem Conforms.exists_services (conforms : Conforms .services root) :
    ∃ records, Service.tableOfJson root = .ok records := by
  obtain ⟨rows, -, each, read⟩ := conforms.exists_rows
  rw [Service.tableOfJson, read, exists_mapM_eq_ok_iff]
  intro row member
  obtain ⟨fields, rfl, -⟩ := each row member
  exact IsRow.exists_service (each _ member)

/-- The sub-functions of a conforming document are records. -/
theorem Conforms.exists_subFunctions (conforms : Conforms .subFunctions root) :
    ∃ records, SubFunction.tableOfJson root = .ok records := by
  obtain ⟨rows, -, each, read⟩ := conforms.exists_rows
  rw [SubFunction.tableOfJson, read, exists_mapM_eq_ok_iff]
  intro row member
  obtain ⟨fields, rfl, -⟩ := each row member
  exact IsRow.exists_subFunction (each _ member)

/-- The layouts of a conforming document are records when all positions are words. -/
theorem Conforms.exists_layouts_iff (conforms : Conforms .layouts root) :
    (∃ records, Layout.tableOfJson root = .ok records) ↔
      ∀ value, HoldsPosition root value → IsWord value := by
  -- A row that conforms is a record unless its position is too large for a word.
  obtain ⟨rows, found, each, read⟩ := conforms.exists_rows
  rw [Layout.tableOfJson, read, exists_mapM_eq_ok_iff]
  constructor
  · intro records value held
    rw [← conforms.holds_word_iff held]
    obtain ⟨others, fields, same, row, member⟩ := held
    obtain rfl : rows = others := by simpa [found] using same
    exact (IsRow.exists_layout_iff (each _ row)).mp (records _ row) value member
  -- The position of each row is one of the document, so it is a word.
  · intro words row member
    obtain ⟨fields, rfl, -⟩ := each row member
    refine (IsRow.exists_layout_iff (each _ member)).mpr ?_
    intro value position
    have held : HoldsPosition root value := ⟨rows, fields, found, member, position⟩
    exact (conforms.holds_word_iff held).mpr (words value held)

/-- Reading the records of a document fails only with an error about its records. -/
theorem Document.records_eq_error_of_not {ρ : Type} {read : Json → Except Malformed (List ρ)}
    {document : Document} (fails : ¬ ∃ records, read document.root = .ok records) :
    ∃ malformed, document.records read = .error (.record document.path (.shape malformed)) := by
  rw [Document.records]
  cases result : read document.root with
  | ok records => exact absurd ⟨records, result⟩ fails
  | error malformed => exact ⟨malformed, rfl⟩

/-- The records of a document are there when its root can be read. -/
theorem Document.exists_records_iff {ρ : Type} {read : Json → Except Malformed (List ρ)}
    {document : Document} :
    (∃ table, document.records read = .ok table) ↔ ∃ records, read document.root = .ok records := by
  rw [Document.records]
  cases read document.root <;> simp

/-- Documents that conform to the built-in schemas are converted to records, except for layouts with a
position that is not written as an integer of 32 bits: these end in an error about the records. -/
theorem records_of_conforming {tree : Files.Tree} {path : Files.Path} {document : Document}
    (accepted : Document.ofJson tree .builtIn kind path root = .ok document) :
    (kind = .services → ∃ table, document.records Service.tableOfJson = .ok table) ∧
      (kind = .subFunctions → ∃ table, document.records SubFunction.tableOfJson = .ok table) ∧
      (kind = .layouts →
        ((∃ table, document.records Layout.tableOfJson = .ok table) ↔
          ∀ value, HoldsPosition root value → IsWord value) ∧
        ((∃ value, HoldsPosition root value ∧ ¬ IsWord value) →
          ∃ malformed, document.records Layout.tableOfJson =
            .error (.record path (.shape malformed)))) := by
  obtain ⟨conforms, rfl⟩ := (ofJson_builtIn_eq_ok_iff tree kind path root document).mp accepted
  refine ⟨?services, ?subFunctions, ?layouts⟩
  -- The first two kinds have no column that the schema leaves open.
  case services =>
    intro services
    subst services
    exact Document.exists_records_iff.mpr conforms.exists_services
  case subFunctions =>
    intro subFunctions
    subst subFunctions
    exact Document.exists_records_iff.mpr conforms.exists_subFunctions
  case layouts =>
    -- Where a position is no word, it is the reading of the records that fails.
    intro layouts
    subst layouts
    refine ⟨Document.exists_records_iff.trans conforms.exists_layouts_iff, ?_⟩
    rintro ⟨value, held, noWord⟩
    refine Document.records_eq_error_of_not ?_
    rw [conforms.exists_layouts_iff]
    intro words
    exact noWord (words value held)

/-- A layout whose position is the number one, written with a fraction. -/
def fractionalFields : List (String × Json) :=
  [("DataByte", .number (.float (.ofInt 1))), ("MemClassName", .text "Read Data"),
    ("NameForProgrammer", .text "dataId"), ("ReqResp", .text "Req"), ("Size", .text "2")]

/-- The document of this layout. -/
def fractionalLayout : Json := .object [("ReqRespItem", .array [.object fractionalFields])]

/-- The position one is accepted with a fraction, but makes no record. -/
theorem records_of_conforming_fractional :
    Document.ofJson .empty .builtIn .layouts "req_resp.json" fractionalLayout =
        .ok ⟨"req_resp.json", fractionalLayout⟩ ∧
      ∃ malformed, (Document.mk "req_resp.json" fractionalLayout).records Layout.tableOfJson =
        .error (.record "req_resp.json" (.shape malformed)) := by
  -- The position compares like the integer one, which is all that the schema asks of it.
  have row : IsRow .layouts (.object fractionalFields) := by
    refine ⟨_, rfl, by decide, ?_⟩
    intro name value member
    simp only [fractionalFields, List.mem_cons, Prod.mk.injEq, List.not_mem_nil, or_false] at member
    rcases member with ⟨rfl, rfl⟩ | ⟨rfl, rfl⟩ | ⟨rfl, rfl⟩ | ⟨rfl, rfl⟩ | ⟨rfl, rfl⟩
    · exact ⟨_, rfl, _, rfl, by decide +kernel, by decide +kernel⟩
    · exact ⟨_, rfl, _, rfl, trivial⟩
    · exact ⟨_, rfl, _, rfl, by decide +kernel⟩
    · exact ⟨_, rfl, _, rfl, by decide⟩
    · exact ⟨_, rfl, _, rfl, by decide⟩
  have conforms : Conforms .layouts fractionalLayout := by
    refine ⟨_, rfl, by decide, ?_⟩
    intro name value member
    obtain ⟨rfl, rfl⟩ : name = "ReqRespItem" ∧ value = .array [.object fractionalFields] := by
      simpa using member
    refine ⟨_, rfl, _, rfl, ?_⟩
    intro item member
    obtain rfl : item = .object fractionalFields := by simpa using member
    exact row
  have accepted := (ofJson_builtIn_eq_ok_iff .empty .layouts "req_resp.json" fractionalLayout _).mpr
    ⟨conforms, rfl⟩
  refine ⟨accepted, ((records_of_conforming accepted).2.2 rfl).2 ⟨.number (.float (.ofInt 1)), ?_, ?_⟩⟩
  -- The position stands in the only row, and it is a number that is no integer.
  · exact ⟨_, fractionalFields, rfl, by simp, by simp [fractionalFields]⟩
  · rintro ⟨number, same, -⟩
    cases same

end Definition

end UdsCatalog
