import Mathlib
import UdsCatalog.Proofs.Catalog.Fields
import UdsCatalog.Proofs.Definition.Writing

/-!
Layouts that are loaded with the built-in schemas. The schema of their table asks for the tags and the
positions that the records need, so no record is rejected and classes are always collected.
-/

namespace UdsCatalog

namespace Definition

/-- A position that is written as an integer counts from one. -/
theorem IsPosition.one_le {number : Int} (position : IsPosition (.number (.int number))) :
    1 ≤ number := by
  obtain ⟨other, same, -, least⟩ := position
  cases same
  rw [compareNumbers_int, Ne, compare_lt_iff_lt] at least
  omega

/-- What the columns of a row hold stands in its record, where the schema has made sure of the tag and
of the position. -/
structure IsRecordOf (row : Json) (record : Record.Layout) : Prop where
  name : row.get? "NameForProgrammer" = some (.text record.name)
  direction : row.get? "ReqResp" = some (.text record.direction)
  dataByte : row.get? "DataByte" = some (.int record.dataByte)
  tagged : record.direction ∈ directionTags
  positive : 1 ≤ record.dataByte

/-- A row of the layout table that conforms is read as a record of what its columns hold. -/
theorem IsRow.isRecordOf {row : Json} (conforms : IsRow .layouts row) {record : Record.Layout}
    (read : Record.Layout.ofJson row = .ok record) : IsRecordOf row record := by
  obtain ⟨fields, rfl, -⟩ := id conforms
  obtain ⟨-, -, name, direction, word, -⟩ := (Record.Layout.ofJson_eq_ok_iff fields record).mp read
  have dataByte := ((Record.wordIn_eq_ok_iff fields "DataByte" record.dataByte).mp word).2
  constructor
  case name => exact (Record.textIn_eq_ok_iff fields "NameForProgrammer" record.name).mp name
  case direction => exact (Record.textIn_eq_ok_iff fields "ReqResp" record.direction).mp direction
  case dataByte => exact dataByte
  case tagged =>
    -- The column holds one of the tags, and the record has the same text.
    obtain ⟨tag, found, listed⟩ := conforms.textIn "ReqResp" (by decide) rfl
    obtain rfl : tag = record.direction := Except.ok.inj (found.symm.trans direction)
    exact listed
  case positive =>
    have position : IsPosition (.number (.int record.dataByte)) :=
      (conforms.position (Schema.mem_of_lookup dataByte)).2
    have least : 1 ≤ (record.dataByte : Int) := position.one_le
    omega

end Definition

namespace LayoutField

open Definition (IsRecordOf)

/-- A record of a row that conforms is always accepted. -/
theorem exists_ofRecord_of_isRecordOf {row : Json} {record : Record.Layout} (path : Files.Path)
    (shown : IsRecordOf row record) : ∃ field, ofRecord path record = .ok field := by
  have tagged := (Direction.mem_tags_iff record.direction).mp shown.tagged
  exact exists_ofRecord_iff.mpr ⟨tagged, shown.positive⟩

/-- A field is what a row of a document says. Positions count from one there, and from zero in fields. -/
structure IsReadFrom (row : Json) (field : LayoutField) : Prop where
  name : row.get? "NameForProgrammer" = some (.text field.name)
  direction : row.get? "ReqResp" = some (.text field.direction.tag)
  position : row.get? "DataByte" = some (.int (field.byteIndex + 1))

/-- A field that is described by the record of a row is what the row says. -/
theorem isReadFrom_of_describes {row : Json} {record : Record.Layout} {field : LayoutField}
    (shown : IsRecordOf row record) (described : Describes record field) : IsReadFrom row field := by
  constructor
  case name => rw [described.name, shown.name]
  case direction => rw [← described.direction, shown.direction]
  case position =>
    -- The description counts from zero, and the document from one.
    have same : (record.dataByte : Int) = field.byteIndex + 1 := by
      have position := described.position
      omega
    rw [shown.dataByte, same]

end LayoutField

namespace LayoutClass

open Definition

/-- Layouts that are loaded with the built-in schemas are always collected into classes: no record is
rejected for its tag or its position. The fields of the classes are those of the rows of the document,
where each position is one greater. -/
theorem exists_collect_of_load {paths : Paths} {tree : Files.Tree} {definitions : Definitions}
    (builtIn : paths.schemas = .builtIn) (loaded : paths.load tree = .ok definitions) :
    (∀ record ∈ definitions.layouts.records,
      ∃ field, LayoutField.ofRecord definitions.layouts.path record = .ok field) ∧
    ∃ text root rows, tree.readText paths.layouts = .ok text ∧ Json.parse text = .ok root ∧
      root.get? "ReqRespItem" = some (.array rows) ∧
      ∃ classes fields, collect definitions.layouts = .ok classes ∧
        List.Forall₂ LayoutField.IsReadFrom rows fields ∧
        (classes.flatMap (·.items)).Perm fields := by
  obtain ⟨-, -, layouts⟩ := Paths.loadTable_of_load loaded
  obtain ⟨text, root, rows, found, parsed, held, conform, each⟩ :=
    Paths.exists_rows_of_loadTable builtIn layouts
  -- Every record is the record of a row that conforms.
  have shown : List.Forall₂ IsRecordOf rows definitions.layouts.records :=
    ((List.forall₂_and_left rows definitions.layouts.records).mpr ⟨conform, each⟩).imp
      fun row record both => both.1.isRecordOf both.2
  have accepted : ∀ record ∈ definitions.layouts.records,
      ∃ field, LayoutField.ofRecord definitions.layouts.path record = .ok field := by
    intro record member
    obtain ⟨row, -, isRecord⟩ := exists_of_forall₂ shown member
    exact LayoutField.exists_ofRecord_of_isRecordOf _ isRecord
  obtain ⟨classes, collected⟩ := (exists_collect_iff definitions.layouts).mpr accepted
  obtain ⟨fields, described, perm⟩ := exists_fields_of_collect collected
  refine ⟨accepted, text, root, rows, found, parsed, held, classes, fields, collected, ?_, perm⟩
  refine (forall₂_comp shown described).imp ?_
  rintro row field ⟨record, isRecord, describes⟩
  exact LayoutField.isReadFrom_of_describes isRecord describes

/-- The first position and the greatest one that a document may have are loaded and collected. -/
theorem exists_collect_of_load_extremes :
    let layouts : List Record.Layout :=
      [⟨"c", "p", "Req", 1, "1", none⟩, ⟨"", "q", "NegResp", 4294967295, "variable", some "\n"⟩]
    localPaths.load (localFiles [] [] layouts) = .ok (localDefinitions [] [] layouts) ∧
      ∃ classes, collect (localDefinitions [] [] layouts).layouts = .ok classes := by
  intro layouts
  -- Both positions are words, and the rest of each row is as the schema asks for it.
  have loaded : localPaths.load (localFiles [] [] layouts) = .ok (localDefinitions [] [] layouts) := by
    refine load_localFiles (by simp) (by simp) ?_
    simp only [layouts, List.forall_mem_cons, List.not_mem_nil, false_implies, implies_true, and_true]
    exact ⟨⟨by decide +kernel, by decide, by decide, by decide, by decide⟩,
      ⟨by decide +kernel, by decide, by decide, by decide, by decide⟩⟩
  obtain ⟨-, -, -, -, -, -, -, classes, -, collected, -⟩ := exists_collect_of_load rfl loaded
  exact ⟨loaded, classes, collected⟩

end LayoutClass

end UdsCatalog
