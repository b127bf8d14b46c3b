import Mathlib
import UdsCatalog.Proofs.Definition.Loading
import UdsCatalog.Proofs.Json.RoundTrip

/-!
Definitions that are written to files. Records whose texts fit the built-in schemas are written as
documents that conform, and loading the files gives the records back.
-/

namespace UdsCatalog

namespace Record

/-- A row of the service table as it is written. -/
def Service.toJson (record : Service) : Json :=
  .object [("DefaultSession", .text record.defaultSession), ("Hex", .text record.hex),
    ("NameForProgrammer", .text record.name), ("NonDefaultSession", .text record.nonDefaultSession),
    ("ShortName", .text record.shortName)]

/-- A row of the sub-function table as it is written. -/
def SubFunction.toJson (record : SubFunction) : Json :=
  .object [("Bit6to0", .text record.values), ("Details", .text record.details),
    ("Mnemonic", .text record.mnemonic), ("ServiceNameForProgrammer", .text record.owner),
    ("ShortName", .text record.shortName), ("SubFunctionNameForProgrammer", .text record.name)]

/-- A row of the layout table as it is written. Details are left out if there are none. -/
def Layout.toJson (record : Layout) : Json :=
  .object (("DataByte", .int record.dataByte) ::
    (record.details.map fun details => ("Details", Json.text details)).toList ++
      [("MemClassName", .text record.className), ("NameForProgrammer", .text record.name),
        ("ReqResp", .text record.direction), ("Size", .text record.size)])

/-- The schema lets a row of the service table through. -/
structure Service.Fits (record : Service) : Prop where
  name : Text.isIdentifier record.name = true
  hex : record.hex ≠ ""

/-- The schema lets a row of the sub-function table through. -/
structure SubFunction.Fits (record : SubFunction) : Prop where
  name : Text.isIdentifier record.name = true
  values : record.values ≠ ""

/-- The schema lets a row of the layout table through, and its position fits 32 bits. -/
structure Layout.Fits (record : Layout) : Prop where
  name : Text.isIdentifier record.name = true
  direction : record.direction ∈ Definition.directionTags
  positive : 1 ≤ record.dataByte
  small : (record.dataByte : Int) < wordBound
  size : record.size ≠ ""

/-- A row of the service table is read back. -/
theorem Service.ofJson_toJson (record : Service) : Service.ofJson record.toJson = .ok record := by
  rfl

/-- A row of the sub-function table is read back. -/
theorem SubFunction.ofJson_toJson (record : SubFunction) :
    SubFunction.ofJson record.toJson = .ok record := by
  rfl

end Record

namespace Definition

open Record (Kind)
open Schema (IsArrayOf)

/-- The document of a table with the given rows. -/
def documentOf (kind : Kind) (rows : List Json) : Json := .object [(kind.key, .array rows)]

/-- A document with rows of its table conforms. -/
theorem conforms_documentOf {kind : Kind} (rows : List Json) (each : ∀ row ∈ rows, IsRow kind row) :
    Conforms kind (documentOf kind rows) := by
  refine ⟨_, rfl, by simp, ?_⟩
  intro name value member
  obtain ⟨rfl, rfl⟩ : name = kind.key ∧ value = .array rows := by simpa using member
  exact ⟨IsArrayOf (IsRow kind), by simp, rows, rfl, each⟩

/-- Fields that stand in the columns of a table, all required ones among them, make a row. -/
theorem isRow_of_columns {kind : Kind} {fields : List (String × Json)}
    (required : ∀ name ∈ requiredColumns kind, (fields.lookup name).isSome)
    (each : ∀ field ∈ fields, ∃ wanted, (columns kind).lookup field.1 = some wanted ∧ wanted field.2) :
    IsRow kind (.object fields) :=
  ⟨fields, rfl, required, fun name value member => each (name, value) member⟩

/-- A service is written as a row of its table. -/
theorem isRow_service {record : Record.Service} (fits : record.Fits) : IsRow .services record.toJson := by
  -- Every field stands in its column, and what the record fits is what is wanted there.
  refine isRow_of_columns (by simp [requiredColumns, List.lookup]) ?_
  simp only [List.forall_mem_cons, List.not_mem_nil, false_implies, implies_true, and_true]
  exact ⟨⟨_, rfl, _, rfl, trivial⟩, ⟨_, rfl, _, rfl, fits.hex⟩, ⟨_, rfl, _, rfl, fits.name⟩,
    ⟨_, rfl, _, rfl, trivial⟩, ⟨_, rfl, _, rfl, trivial⟩⟩

/-- A sub-function is written as a row of its table. -/
theorem isRow_subFunction {record : Record.SubFunction} (fits : record.Fits) :
    IsRow .subFunctions record.toJson := by
  refine isRow_of_columns (by simp [requiredColumns, List.lookup]) ?_
  simp only [List.forall_mem_cons, List.not_mem_nil, false_implies, implies_true, and_true]
  exact ⟨⟨_, rfl, _, rfl, fits.values⟩, ⟨_, rfl, _, rfl, trivial⟩, ⟨_, rfl, _, rfl, trivial⟩,
    ⟨_, rfl, _, rfl, trivial⟩, ⟨_, rfl, _, rfl, trivial⟩, ⟨_, rfl, _, rfl, fits.name⟩⟩

/-- A layout is written as a row of its table. -/
theorem isRow_layout {record : Record.Layout} (fits : record.Fits) : IsRow .layouts record.toJson := by
  obtain ⟨className, name, direction, dataByte, size, details⟩ := record
  -- A position that fits is one that is at least one.
  have position : IsPosition (.int dataByte) := by
    refine ⟨.int dataByte, rfl, rfl, ?_⟩
    rw [compareNumbers_int, Ne, compare_lt_iff_lt]
    have positive := fits.positive
    simp only at positive
    omega
  -- A detail that is missing is not written, and its column is not required.
  cases details with
  | none =>
    refine isRow_of_columns (by simp [requiredColumns, List.lookup]) ?_
    simp only [Option.map_none, Option.toList_none, List.nil_append, List.cons_append,
      List.forall_mem_cons, List.not_mem_nil, false_implies, implies_true, and_true]
    exact ⟨⟨_, rfl, position⟩, ⟨_, rfl, _, rfl, trivial⟩, ⟨_, rfl, _, rfl, fits.name⟩,
      ⟨_, rfl, _, rfl, fits.direction⟩, ⟨_, rfl, _, rfl, fits.size⟩⟩
  | some details =>
    refine isRow_of_columns (by simp [requiredColumns, List.lookup]) ?_
    simp only [Option.map_some, Option.toList_some, List.cons_append, List.nil_append,
      List.forall_mem_cons, List.not_mem_nil, false_implies, implies_true, and_true]
    exact ⟨⟨_, rfl, position⟩, ⟨_, rfl, _, rfl, trivial⟩, ⟨_, rfl, _, rfl, trivial⟩,
      ⟨_, rfl, _, rfl, fits.name⟩, ⟨_, rfl, _, rfl, fits.direction⟩, ⟨_, rfl, _, rfl, fits.size⟩⟩

/-- A row of the layout table is read back. -/
theorem ofJson_toJson_layout {record : Record.Layout} (fits : record.Fits) :
    Record.Layout.ofJson record.toJson = .ok record := by
  have row : IsRow .layouts record.toJson := isRow_layout fits
  obtain ⟨className, name, direction, dataByte, size, details⟩ := record
  rw [Record.Layout.toJson] at row ⊢
  rw [Record.Layout.ofJson_eq_ok_iff]
  have checked : Record.Layout.form.checkFields _ = .ok () := row.checkFields_eq_ok_iff.mpr (by
    -- Of all fields only the first one is the position.
    intro value member
    obtain rfl : value = .int dataByte := by
      cases details <;> simpa using member
    exact ⟨dataByte, rfl, by omega, fits.small⟩)
  cases details <;> exact ⟨checked, rfl, rfl, rfl,
    (Record.wordIn_eq_ok_iff _ _ _).mpr ⟨fits.small, rfl⟩, rfl, rfl⟩

/-- Records that are written as rows of a table are read back from its document. -/
theorem readTable_documentOf {ρ : Type} {kind : Kind} {read : Json → Except Record.Malformed ρ}
    {write : ρ → Json} {records : List ρ} (back : ∀ record ∈ records, read (write record) = .ok record) :
    Record.readTable kind read (documentOf kind (records.map write)) = .ok records := by
  have mapped : (records.map write).mapM read = .ok records := by
    rw [mapM_eq_ok_iff, ReadsEach, List.forall₂_map_left_iff, List.forall₂_same]
    exact back
  simp [documentOf, Record.readTable, Record.readRows, Record.readAll_eq_mapM, mapped]

/-- The document of a table is read back when its rows are. -/
theorem plain_documentOf {kind : Kind} {rows : List Json}
    (each : ∀ row ∈ rows, row.Plain (Json.Reader.deepest - 2)) :
    (documentOf kind rows).Plain Json.Reader.deepest := by
  have items := (Json.plainItems_iff _ rows).mpr each
  exact ⟨by decide, by simp, ⟨by decide, items⟩, trivial⟩

/-- A service is plain when it is written. -/
theorem plain_service (record : Record.Service) : record.toJson.Plain (Json.Reader.deepest - 2) := by
  refine ⟨by decide, ?_, by simp [Json.Plain.PlainFields, Json.Plain]⟩
  show ["DefaultSession", "Hex", "NameForProgrammer", "NonDefaultSession", "ShortName"].Pairwise (· < ·)
  decide

/-- A sub-function is plain when it is written. -/
theorem plain_subFunction (record : Record.SubFunction) :
    record.toJson.Plain (Json.Reader.deepest - 2) := by
  refine ⟨by decide, ?_, by simp [Json.Plain.PlainFields, Json.Plain]⟩
  show ["Bit6to0", "Details", "Mnemonic", "ServiceNameForProgrammer", "ShortName",
    "SubFunctionNameForProgrammer"].Pairwise (· < ·)
  decide

/-- A layout is plain when it is written. -/
theorem plain_layout {record : Record.Layout} (fits : record.Fits) :
    record.toJson.Plain (Json.Reader.deepest - 2) := by
  obtain ⟨className, name, direction, dataByte, size, details⟩ := record
  -- A word is far below the largest number that the reader collects digit by digit.
  have small : (dataByte : Int) < Json.Numeral.digitBound := by
    have bound : (dataByte : Int) < Record.wordBound := fits.small
    simp only [Record.wordBound] at bound
    simp only [Json.Numeral.digitBound]
    omega
  have number : (Json.int dataByte).Plain (Json.Reader.deepest - 2 - 1) := ⟨by omega, small⟩
  -- With or without the detail the names of the fields are in order.
  cases details with
  | none =>
    refine ⟨by decide, ?_, number, by simp [Json.Plain.PlainFields, Json.Plain]⟩
    show ["DataByte", "MemClassName", "NameForProgrammer", "ReqResp", "Size"].Pairwise (· < ·)
    decide
  | some details =>
    refine ⟨by decide, ?_, number, by simp [Json.Plain.PlainFields, Json.Plain]⟩
    show ["DataByte", "Details", "MemClassName", "NameForProgrammer", "ReqResp", "Size"].Pairwise (· < ·)
    decide

/-- A table that is written to a file is loaded from there. -/
theorem Paths.loadTable_written {paths : Paths} {tree : Files.Tree} {ρ : Type} {kind : Kind}
    {path : Files.Path} {read : Json → Except Record.Malformed ρ} {write : ρ → Json} {records : List ρ}
    (builtIn : paths.schemas = .builtIn) (file : tree.isFile path = true)
    (text : tree.readText path = .ok (documentOf kind (records.map write)).compact)
    (rows : ∀ record ∈ records, IsRow kind (write record))
    (plain : ∀ record ∈ records, (write record).Plain (Json.Reader.deepest - 2))
    (back : ∀ record ∈ records, read (write record) = .ok record) :
    paths.loadTable tree kind path (Record.readTable kind read) = .ok ⟨path, records⟩ := by
  -- Parsing gives the document back, the schema lets it through, and its rows are read back.
  have parsed : Json.parse (documentOf kind (records.map write)).compact =
      .ok (documentOf kind (records.map write)) :=
    Json.parse_compact (plain_documentOf (by simpa using plain))
  have accepted := (ofJson_builtIn_eq_ok_iff tree kind path _ _).mpr
    ⟨conforms_documentOf (records.map write) (by simpa using rows), rfl⟩
  rw [Document.ofJson] at accepted
  simp only [Paths.loadTable, Paths.loadTableWith, Document.loadWith, file, if_true, readFile, text, parsed,
    builtIn, accepted, Bind.bind, Except.bind, Document.records, readTable_documentOf back]

/-- The files of three tables, in the directory that paths start from. -/
def localFiles (services : List Record.Service) (subFunctions : List Record.SubFunction)
    (layouts : List Record.Layout) : Files.Tree :=
  ⟨[([defaultFile .services], .file (.text (documentOf .services
      (services.map Record.Service.toJson)).compact)),
    ([defaultFile .subFunctions], .file (.text (documentOf .subFunctions
      (subFunctions.map Record.SubFunction.toJson)).compact)),
    ([defaultFile .layouts], .file (.text (documentOf .layouts
      (layouts.map Record.Layout.toJson)).compact))], []⟩

/-- Where these files are, with the built-in schemas. -/
def localPaths : Paths := ⟨defaultFile .services, defaultFile .subFunctions, defaultFile .layouts, .builtIn⟩

/-- The definitions in these files. -/
def localDefinitions (services : List Record.Service) (subFunctions : List Record.SubFunction)
    (layouts : List Record.Layout) : Definitions :=
  ⟨⟨defaultFile .services, services⟩, ⟨defaultFile .subFunctions, subFunctions⟩,
    ⟨defaultFile .layouts, layouts⟩⟩

/-- Definitions that are written to files are loaded again. -/
theorem load_localFiles {services : List Record.Service} {subFunctions : List Record.SubFunction}
    {layouts : List Record.Layout} (fitServices : ∀ record ∈ services, record.Fits)
    (fitSubFunctions : ∀ record ∈ subFunctions, record.Fits)
    (fitLayouts : ∀ record ∈ layouts, record.Fits) :
    localPaths.load (localFiles services subFunctions layouts) =
      .ok (localDefinitions services subFunctions layouts) := by
  -- All three files are there, and each table is loaded from its own.
  have there : localPaths.ensureExist (localFiles services subFunctions layouts) = .ok () := rfl
  have first : localPaths.loadTable (localFiles services subFunctions layouts) .services
      localPaths.services Record.Service.tableOfJson = .ok ⟨localPaths.services, services⟩ :=
    Paths.loadTable_written rfl rfl rfl (fun record member => isRow_service (fitServices record member))
      (fun record _ => plain_service record) (fun record _ => record.ofJson_toJson)
  have second : localPaths.loadTable (localFiles services subFunctions layouts) .subFunctions
      localPaths.subFunctions Record.SubFunction.tableOfJson =
        .ok ⟨localPaths.subFunctions, subFunctions⟩ :=
    Paths.loadTable_written rfl rfl rfl
      (fun record member => isRow_subFunction (fitSubFunctions record member))
      (fun record _ => plain_subFunction record) (fun record _ => record.ofJson_toJson)
  have third : localPaths.loadTable (localFiles services subFunctions layouts) .layouts
      localPaths.layouts Record.Layout.tableOfJson = .ok ⟨localPaths.layouts, layouts⟩ :=
    Paths.loadTable_written rfl rfl rfl (fun record member => isRow_layout (fitLayouts record member))
      (fun record member => plain_layout (fitLayouts record member))
      (fun record member => ofJson_toJson_layout (fitLayouts record member))
  rw [Paths.loadTable] at first second third
  simp only [Paths.load, Paths.loadWith, there, first, second, third, Bind.bind, Except.bind, Pure.pure,
    Except.pure]
  rfl

end Definition

end UdsCatalog
