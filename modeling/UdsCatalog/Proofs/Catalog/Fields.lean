import Mathlib
import UdsCatalog.Proofs.Catalog.Layouts

/-!
The fields of messages are the records of the layout table. What a field takes from its record is said
once, and it holds between the records of a class name and the fields of the class.
-/

namespace UdsCatalog

/-- The three tags are those of the directions. -/
theorem Direction.mem_tags_iff (tag : String) :
    tag ∈ ["Req", "PosResp", "NegResp"] ↔ ∃ direction : Direction, tag = direction.tag := by
  constructor
  · -- Each tag of the list is that of one direction.
    intro member
    simp only [List.mem_cons, List.not_mem_nil, or_false] at member
    rcases member with rfl | rfl | rfl
    · exact ⟨.request, rfl⟩
    · exact ⟨.positive, rfl⟩
    · exact ⟨.negative, rfl⟩
  -- The other way round each direction has its tag in the list.
  · rintro ⟨direction, rfl⟩
    cases direction <;> decide

/-- A direction is read from its own tag alone. -/
theorem Direction.ofTag?_eq_some_iff {tag : String} {direction : Direction} :
    ofTag? tag = some direction ↔ tag = direction.tag := by
  constructor
  · -- The tags are compared one after the other, and each stands for its own direction.
    intro found
    unfold ofTag? at found
    split at found
    next request =>
      cases found
      exact eq_of_beq request
    next =>
      split at found
      next positive =>
        cases found
        exact eq_of_beq positive
      next =>
        split at found
        next negative =>
          cases found
          exact eq_of_beq negative
        next => cases found
  · rintro rfl
    -- Each direction is found under its own tag.
    cases direction <;> rfl

namespace LayoutField

/-- All that a field takes from its record. -/
structure Describes (record : Record.Layout) (field : LayoutField) : Prop where
  name : field.name = record.name
  direction : record.direction = field.direction.tag
  /-- Positions in the table count from one, those of fields from zero. -/
  position : record.dataByte = field.byteIndex + 1
  size : field.size = Numeral.readInt64? (Text.trim record.size.toList)
  sizeText : field.sizeText = if field.size.isSome then record.size else ""
  detail : field.detail = Text.escapeDetail (record.details.getD "")

/-- A record is read as the field that it describes. -/
theorem ofRecord_eq_ok_iff {path : Files.Path} {record : Record.Layout} {field : LayoutField} :
    ofRecord path record = .ok field ↔ Describes record field := by
  unfold ofRecord
  constructor
  · -- A field comes out only when the tag names a direction and the position is not zero.
    intro accepted
    cases named : Direction.ofTag? record.direction with
    | none => simp [named] at accepted
    | some direction =>
      cases position : record.dataByte with
      | zero => simp [named, position] at accepted
      | succ byteIndex =>
        simp only [named, position, Except.ok.injEq] at accepted
        subst accepted
        exact ⟨rfl, Direction.ofTag?_eq_some_iff.mp named, position, rfl, rfl, rfl⟩
  · -- The description fixes every part of the field.
    intro described
    have named := Direction.ofTag?_eq_some_iff.mpr described.direction
    simp only [named, described.position, Except.ok.injEq]
    have size := described.size
    have sizeText := described.sizeText
    rw [size] at sizeText
    cases field
    simp only [LayoutField.mk.injEq]
    exact ⟨described.name.symm, trivial, trivial, sizeText.symm, size.symm, described.detail.symm⟩

/-- A record is accepted exactly when its tag is that of a direction and its position counts from one. -/
theorem exists_ofRecord_iff {path : Files.Path} {record : Record.Layout} :
    (∃ field, ofRecord path record = .ok field) ↔
      (∃ direction : Direction, record.direction = direction.tag) ∧ 1 ≤ record.dataByte := by
  simp only [ofRecord_eq_ok_iff]
  constructor
  · rintro ⟨field, described⟩
    have position := described.position
    exact ⟨⟨field.direction, described.direction⟩, by omega⟩
  -- Every size and every detail can be read, so the tag and the position are all that is asked.
  · rintro ⟨⟨direction, tagged⟩, positive⟩
    have position : record.dataByte = record.dataByte - 1 + 1 := by omega
    let size := Numeral.readInt64? (Text.trim record.size.toList)
    let field : LayoutField :=
      ⟨record.name, direction, record.dataByte - 1, if size.isSome then record.size else "", size,
        Text.escapeDetail (record.details.getD "")⟩
    exact ⟨field, rfl, tagged, position, rfl, rfl, rfl⟩

end LayoutField

namespace LayoutClass

variable {table : Record.Table Record.Layout} {classes : List LayoutClass}

/-- Classes are collected exactly when each record is accepted. -/
theorem exists_collect_iff (table : Record.Table Record.Layout) :
    (∃ classes, collect table = .ok classes) ↔
      ∀ record ∈ table.records, ∃ field, LayoutField.ofRecord table.path record = .ok field := by
  simp only [collect_eq]
  exact exists_map_mapM_eq_ok_iff

/-- The fields of all classes are described by the records, but stand in the order of the classes. -/
theorem exists_fields_of_collect (collected : collect table = .ok classes) :
    ∃ fields, List.Forall₂ LayoutField.Describes table.records fields ∧
      (classes.flatMap (·.items)).Perm fields := by
  -- Collecting reads the fields in the order of the records, and grouping only moves them about.
  rw [collect_eq, map_mapM_eq_ok_iff] at collected
  obtain ⟨fields, each, rfl⟩ := collected
  have described : List.Forall₂ LayoutField.Describes table.records fields :=
    each.imp fun _ _ => LayoutField.ofRecord_eq_ok_iff.mp
  have perm := grouped_perm (table.records.zip fields)
  rw [List.map_snd_zip each.length_eq.ge] at perm
  exact ⟨fields, described, perm⟩

/-- What says the same of a record and of its field holds of the whole table exactly when it holds of
the fields of all classes. -/
theorem forall_records_iff_of_collect {ofRecord : Record.Layout → Prop} {ofField : LayoutField → Prop}
    (same : ∀ record field, LayoutField.Describes record field → (ofRecord record ↔ ofField field))
    (collected : collect table = .ok classes) :
    (∀ record ∈ table.records, ofRecord record) ↔
      ∀ layout ∈ classes, ∀ field ∈ layout.items, ofField field := by
  -- All fields have to do it on both sides, so their order does not matter.
  obtain ⟨fields, described, perm⟩ := exists_fields_of_collect collected
  rw [forall_mem_iff_of_forall₂ same described]
  simp only [← perm.mem_iff, List.mem_flatMap]
  constructor
  · intro all layout member field among
    exact all field ⟨layout, member, among⟩
  · rintro all field ⟨layout, member, among⟩
    exact all layout member field among

end LayoutClass

end UdsCatalog
