import Mathlib
import UdsCatalog.Definition.Loading
import UdsCatalog.Proofs.Definition.Records

/-!
What is known of definitions that are loaded with the built-in schemas. Each record is read from a row
of a document that conforms, so what a column must hold is held by every record.
-/

namespace UdsCatalog.Definition

open Record (Kind Malformed readTable)

/-- Every record of a table is read from a row that conforms. -/
def ComesFromRows {ρ : Type} (kind : Kind) (read : Json → Except Malformed ρ) (records : List ρ) : Prop :=
  ∀ record ∈ records, ∃ fields, IsRow kind (.object fields) ∧ read (.object fields) = .ok record

/-- Where the schema asks for identifiers, records that come from conforming rows have them. -/
theorem ComesFromRows.isIdentifier {ρ : Type} {kind : Kind} {read : Json → Except Malformed ρ}
    {records : List ρ} (come : ComesFromRows kind read records) {column : String} {held : ρ → String}
    (required : column ∈ requiredColumns kind)
    (asked : (columns kind).lookup column = some (Schema.IsText (Text.isIdentifier · = true)))
    (reads : ∀ fields record, read (.object fields) = .ok record →
      Record.textIn fields column = .ok (held record)) :
    ∀ record ∈ records, Text.isIdentifier (held record) = true := by
  intro record member
  obtain ⟨fields, row, accepted⟩ := come record member
  -- What the record holds is what stands in the row, where the schema asks for an identifier.
  have copied := reads fields record accepted
  obtain ⟨text, found, identifier⟩ := row.textIn column required asked
  obtain rfl : text = held record := Except.ok.inj (found.symm.trans copied)
  exact identifier

/-- Services that come from conforming rows have identifiers as names. -/
theorem ComesFromRows.isIdentifier_service {records : List Record.Service}
    (come : ComesFromRows .services Record.Service.ofJson records) :
    ∀ record ∈ records, Text.isIdentifier record.name = true :=
  come.isIdentifier (by decide) rfl fun fields record read =>
    ((Record.Service.ofJson_eq_ok_iff fields record).mp read).2.1

/-- Sub-functions that come from conforming rows have identifiers as names. -/
theorem ComesFromRows.isIdentifier_subFunction {records : List Record.SubFunction}
    (come : ComesFromRows .subFunctions Record.SubFunction.ofJson records) :
    ∀ record ∈ records, Text.isIdentifier record.name = true :=
  come.isIdentifier (by decide) rfl fun fields record read =>
    ((Record.SubFunction.ofJson_eq_ok_iff fields record).mp read).2.2.1

/-- Layouts that come from conforming rows have identifiers as names of their fields. -/
theorem ComesFromRows.isIdentifier_layout {records : List Record.Layout}
    (come : ComesFromRows .layouts Record.Layout.ofJson records) :
    ∀ record ∈ records, Text.isIdentifier record.name = true :=
  come.isIdentifier (by decide) rfl fun fields record read =>
    ((Record.Layout.ofJson_eq_ok_iff fields record).mp read).2.2.1

/-- A document that is loaded with the built-in schema of its table is what its file parses to, and it
conforms. -/
theorem Document.exists_root_of_load {tree : Files.Tree} {kind : Kind} {path : Files.Path}
    {document : Document} (loaded : Document.load tree .builtIn kind path = .ok document) :
    ∃ text root, tree.readText path = .ok text ∧ Json.parse text = .ok root ∧ Conforms kind root ∧
      document = ⟨path, root⟩ := by
  -- Each step of loading ends the whole when it fails, so all of them have succeeded.
  rw [Document.load, Document.loadWith] at loaded
  split at loaded
  · obtain ⟨text, found, parsed⟩ := bind_eq_ok_iff.mp loaded
    -- The step only changes the fault, so the text is the one of the tree.
    have read : tree.readText path = .ok text := by
      rw [readFile] at found
      cases content : tree.readText path with
      | ok other =>
        rw [content, Except.ok.injEq] at found
        rw [found]
      | error fault =>
        rw [content] at found
        cases found
    cases document? : Json.parse text with
    | error fault =>
      rw [document?] at parsed
      cases parsed
    | ok root =>
      rw [document?] at parsed
      obtain ⟨conforms, same⟩ := (ofJson_builtIn_eq_ok_iff _ _ _ _ _).mp parsed
      exact ⟨text, root, read, document?, conforms, same⟩
  · cases loaded

namespace Paths

variable {paths : Paths} {tree : Files.Tree} {definitions : Definitions}

/-- A table that is loaded with its built-in schema is read row by row from a document that conforms. -/
theorem exists_rows_of_loadTable {ρ : Type} {kind : Kind} {path : Files.Path}
    {read : Json → Except Malformed ρ} {table : Record.Table ρ} (builtIn : paths.schemas = .builtIn)
    (loaded : paths.loadTable tree kind path (readTable kind read) = .ok table) :
    ∃ text root rows, tree.readText path = .ok text ∧ Json.parse text = .ok root ∧
      root.get? kind.key = some (.array rows) ∧ (∀ row ∈ rows, IsRow kind row) ∧
      ReadsEach read rows table.records := by
  rw [loadTable, loadTableWith, builtIn] at loaded
  obtain ⟨document, accepted, converted⟩ := bind_eq_ok_iff.mp loaded
  obtain ⟨text, root, found, parsed, conforms, rfl⟩ := Document.exists_root_of_load accepted
  obtain ⟨rows, held, each, mapped⟩ := conforms.exists_rows
  refine ⟨text, root, rows, found, parsed, held, each, ?_⟩
  -- The records are those that the rows of the root are read as.
  rw [Document.records, mapped] at converted
  cases result : rows.mapM read with
  | error malformed => simp [result] at converted
  | ok records =>
    rw [result, Except.ok.injEq] at converted
    subst converted
    exact mapM_eq_ok_iff.mp result

/-- A table that is loaded with its built-in schema consists of records from conforming rows. -/
theorem comesFromRows_of_loadTable {ρ : Type} {kind : Kind} {path : Files.Path}
    {read : Json → Except Malformed ρ} {table : Record.Table ρ} (builtIn : paths.schemas = .builtIn)
    (loaded : paths.loadTable tree kind path (readTable kind read) = .ok table) :
    ComesFromRows kind read table.records := by
  obtain ⟨-, -, rows, -, -, -, conform, each⟩ := exists_rows_of_loadTable builtIn loaded
  intro record member
  obtain ⟨row, among, accepted⟩ := exists_of_forall₂ each member
  obtain ⟨fields, rfl, -⟩ := conform row among
  exact ⟨fields, conform _ among, accepted⟩

/-- Definitions are loaded table by table. -/
theorem loadTable_of_load (loaded : paths.load tree = .ok definitions) :
    paths.loadTable tree .services paths.services Record.Service.tableOfJson = .ok definitions.services ∧
      paths.loadTable tree .subFunctions paths.subFunctions Record.SubFunction.tableOfJson =
        .ok definitions.subFunctions ∧
      paths.loadTable tree .layouts paths.layouts Record.Layout.tableOfJson = .ok definitions.layouts := by
  -- The tables are loaded one after the other, and none of them has failed.
  obtain ⟨-, -, afterCheck⟩ := bind_eq_ok_iff.mp loaded
  obtain ⟨services, loadedServices, afterServices⟩ := bind_eq_ok_iff.mp afterCheck
  obtain ⟨subFunctions, loadedSubs, afterSubs⟩ := bind_eq_ok_iff.mp afterServices
  obtain ⟨layouts, loadedLayouts, all⟩ := bind_eq_ok_iff.mp afterSubs
  cases all
  exact ⟨loadedServices, loadedSubs, loadedLayouts⟩

/-- Definitions that are loaded with the built-in schemas consist of records from conforming rows. -/
theorem comesFromRows_of_load (builtIn : paths.schemas = .builtIn)
    (loaded : paths.load tree = .ok definitions) :
    ComesFromRows .services Record.Service.ofJson definitions.services.records ∧
      ComesFromRows .subFunctions Record.SubFunction.ofJson definitions.subFunctions.records ∧
      ComesFromRows .layouts Record.Layout.ofJson definitions.layouts.records := by
  obtain ⟨services, subFunctions, layouts⟩ := loadTable_of_load loaded
  exact ⟨comesFromRows_of_loadTable builtIn services, comesFromRows_of_loadTable builtIn subFunctions,
    comesFromRows_of_loadTable builtIn layouts⟩

end Paths

end UdsCatalog.Definition
