import Mathlib
import UdsCatalog.Proofs.Catalog.Fields
import UdsCatalog.Proofs.Definition.Writing
import UdsCatalog.Proofs.Generation.Supply

/-!
The constants of generated declarations: the position of each field, and its size if it is known. Each
is declared as a byte, so all of them keep their values exactly when all positions and sizes fit.
-/

namespace UdsCatalog

/-- The position of a field fits into a byte, and so does its size if it is known. -/
structure LayoutField.FitsByte (field : LayoutField) : Prop where
  position : field.byteIndex ≤ 255
  size : ∀ size ∈ field.size, 0 ≤ size ∧ size ≤ 255

/-- The position in a record counts from one, so it may be one greater than a byte. A size that is no
number does not matter. -/
structure Record.Layout.FitsByte (record : Record.Layout) : Prop where
  position : record.dataByte ≤ 256
  size : ∀ size ∈ Numeral.readInt64? (Text.trim record.size.toList), 0 ≤ size ∧ size ≤ 255

instance : DecidablePred Record.Layout.FitsByte := fun record =>
  decidable_of_iff (record.dataByte ≤ 256 ∧
      ∀ size ∈ Numeral.readInt64? (Text.trim record.size.toList), 0 ≤ size ∧ size ≤ 255)
    ⟨fun ⟨position, size⟩ => ⟨position, size⟩, fun ⟨position, size⟩ => ⟨position, size⟩⟩

/-- A record fits exactly when the field does that it describes. -/
theorem LayoutField.Describes.fitsByte_iff {record : Record.Layout} {field : LayoutField}
    (described : Describes record field) : record.FitsByte ↔ field.FitsByte := by
  -- The positions are apart by one, and the sizes are the same.
  have position := described.position
  constructor
  · rintro ⟨fits, sized⟩
    exact ⟨by omega, fun size known => sized size (described.size ▸ known)⟩
  · rintro ⟨fits, sized⟩
    exact ⟨by omega, fun size known => sized size (described.size.trans known)⟩

namespace Generation

/-- A constant of a class, with the value that is written for it. -/
structure Constant where
  owner : String
  name : String
  value : Int
  deriving DecidableEq, Repr

namespace Constant

/-- The name of a constant with that of its class. -/
def fullName (constant : Constant) : String := constant.owner ++ "::" ++ constant.name

/-- The line that declares a constant. -/
def line (constant : Constant) : Code :=
  [.plain "\n\t\t", .declared (.constant constant.owner constant.name),
    .plain (" = " ++ toString constant.value ++ ";")]

/-- What is left of the value in the byte that the constant is. -/
def stored (constant : Constant) : UInt8 := .ofInt constant.value

/-- The byte is the value. -/
def IsKept (constant : Constant) : Prop := (constant.stored.toNat : Int) = constant.value

instance : DecidablePred IsKept := fun constant =>
  inferInstanceAs (Decidable ((constant.stored.toNat : Int) = constant.value))

/-- A byte keeps the values from 0 to 255, and no others. -/
theorem isKept_iff {constant : Constant} :
    constant.IsKept ↔ 0 ≤ constant.value ∧ constant.value ≤ 255 := by
  -- What is stored is the remainder of the value.
  have stored : (constant.stored.toNat : Int) = constant.value % 256 := by
    rw [Constant.stored, UInt8.ofInt, UInt8.toNat_ofNat']
    omega
  rw [IsKept, stored]
  omega

end Constant

/-- The name of a constant with that of its class. -/
@[simp] def Entity.constantName? : Entity → Option String
  | .constant owner name => some (owner ++ "::" ++ name)
  | _ => none

/-- The constant of a field's position. -/
def positionConstant (owner : String) (field : LayoutField) : Constant :=
  ⟨owner, field.name ++ "Pos", field.byteIndex⟩

/-- The constant of a field's size, if it is known. -/
def sizeConstant? (owner : String) (field : LayoutField) : Option Constant :=
  field.size.map fun size => ⟨owner, field.name ++ "Size", size⟩

/-- The constants of a class: the positions of all fields in front of the sizes. -/
def classConstants (layout : LayoutClass) : List Constant :=
  layout.items.map (positionConstant (className layout)) ++
    layout.items.filterMap (sizeConstant? (className layout))

/-- The constants of all classes. -/
def constantsOf (catalog : Catalog) : List Constant := catalog.classes.flatMap classConstants

/-- The names of the constants that declarations have, each with that of its class. -/
def declaredConstants (code : Code) : List String := code.declaredNames Entity.constantName?

/-- A position is declared by the line of its constant. -/
theorem positionLine_eq (owner : String) (field : LayoutField) :
    positionLine owner field = (positionConstant owner field).line := by
  rfl

/-- A size is declared by the line of its constant. -/
theorem sizeLine_eq (owner : String) (field : LayoutField) :
    sizeLine owner field = (sizeConstant? owner field).toList.flatMap Constant.line := by
  cases size : field.size <;> simp [sizeLine, sizeConstant?, size, Constant.line, sizeOf]

/-- The line of a constant declares it. -/
theorem declaredConstants_line (constant : Constant) :
    constant.line.declaredNames Entity.constantName? = [constant.fullName] := by
  simp [Constant.line, Constant.fullName]

/-- The declaration of a class declares its constants. -/
theorem declaredConstants_classDeclaration (layout : LayoutClass) :
    declaredConstants (classDeclaration layout) = (classConstants layout).map Constant.fullName := by
  -- Positions and sizes are the lines of constants; what stands around them declares none.
  have positions : layout.items.flatMap (positionLine (className layout)) =
      (layout.items.map (positionConstant (className layout))).flatMap Constant.line := by
    simp [List.flatMap_map, funext (positionLine_eq (className layout))]
  have sizes : layout.items.flatMap (sizeLine (className layout)) =
      (layout.items.filterMap (sizeConstant? (className layout))).flatMap Constant.line := by
    simp [List.filterMap_eq_flatMap_toList, List.flatMap_assoc, funext (sizeLine_eq (className layout))]
  have functions : (layout.items.flatMap fun field =>
      (methodLines (className layout) field).declaredNames Entity.constantName?) = [] := by
    simp [methodLines, testOf, getterOf]
  simp [declaredConstants, classDeclaration, classConstants, positions, sizes, functions,
    declaredConstants_line, List.map_eq_flatMap]

/-- Services and their sub-functions have enumerators and variables, but no constants. -/
theorem declaredConstants_of_service (service : Service) :
    declaredConstants (enumeratorLine service ++ subEnumeration service ++ subVariableLines service) =
      [] := by
  by_cases some : service.hasSubFunctions = true
  · simp [declaredConstants, some, enumeratorLine, serviceEnumerator, subEnumeration,
      subEnumeratorLines, subEnumerator, subVariableLines, variableLine, subVariable]
  · -- Without sub-functions only the enumerator of the service is left.
    simp [declaredConstants, some, enumeratorLine, serviceEnumerator, subEnumeration,
      subVariableLines]

/-- The declarations of a catalog have the constants of its classes, and no others. -/
theorem declaredConstants_headerCode (catalog : Catalog) :
    declaredConstants (headerCode catalog) = (constantsOf catalog).map Constant.fullName := by
  -- Constants stand in the declarations of classes only.
  have classes := declaredConstants_classDeclaration
  have services := declaredConstants_of_service
  simp only [declaredConstants, Code.declaredNames_append, List.append_eq_nil_iff] at classes services
  simp [Code.flatMap_nothing, declaredConstants, headerCode, classes, services, constantsOf, variableLine,
    tableVariable, serviceVariable, servicesVariable, List.map_flatMap]

/-- Each constant is declared by its line. -/
theorem line_isInfix_of_mem {catalog : Catalog} {constant : Constant}
    (member : constant ∈ constantsOf catalog) : constant.line <:+: headerCode catalog := by
  obtain ⟨layout, among, ofClass⟩ := List.mem_flatMap.mp member
  -- The declaration of the class stands among those of all classes.
  have declared : classDeclaration layout <:+: headerCode catalog :=
    (Code.infix_flatMap among classDeclaration).trans (List.infix_of_mem_flatten (by simp))
  refine List.IsInfix.trans ?_ declared
  -- In it stand the lines of positions and the lines of sizes.
  rcases List.mem_append.mp ofClass with position | size
  · obtain ⟨field, inItems, rfl⟩ := List.mem_map.mp position
    rw [← positionLine_eq]
    exact (Code.infix_flatMap inItems (positionLine (className layout))).trans
      (List.infix_of_mem_flatten (by simp))
  · obtain ⟨field, inItems, known⟩ := List.mem_filterMap.mp size
    have line : constant.line = sizeLine (className layout) field := by
      simp [sizeLine_eq, known]
    rw [line]
    exact (Code.infix_flatMap inItems (sizeLine (className layout))).trans
      (List.infix_of_mem_flatten (by simp))

/-- The constants of a field keep their values exactly when the field fits. -/
theorem fitsByte_iff_isKept (owner : String) (field : LayoutField) :
    field.FitsByte ↔ (positionConstant owner field).IsKept ∧
      ∀ constant ∈ sizeConstant? owner field, constant.IsKept := by
  -- A position is never negative, so only the upper bound of the byte counts for it.
  simp only [Constant.isKept_iff, positionConstant, sizeConstant?, Option.mem_def,
    Option.map_eq_some_iff, forall_exists_index, and_imp, forall_apply_eq_imp_iff₂]
  constructor
  · rintro ⟨position, size⟩
    exact ⟨⟨by omega, by omega⟩, size⟩
  · rintro ⟨⟨-, position⟩, size⟩
    exact ⟨by omega, size⟩

/-- All constants keep their values exactly when all fields fit. -/
theorem forall_isKept_iff (catalog : Catalog) :
    (∀ constant ∈ constantsOf catalog, constant.IsKept) ↔
      ∀ layout ∈ catalog.classes, ∀ field ∈ layout.items, field.FitsByte := by
  simp only [constantsOf, List.forall_mem_flatMap]
  refine forall₂_congr fun layout _ => ?_
  -- The constants of a class are those of its fields, positions first.
  simp only [fitsByte_iff_isKept (className layout), classConstants, List.forall_mem_append,
    List.forall_mem_map, List.mem_filterMap]
  constructor
  · rintro ⟨positions, sizes⟩ field member
    exact ⟨positions field member, fun constant known => sizes constant ⟨field, member, known⟩⟩
  · intro fields
    refine ⟨fun field member => (fields field member).1, ?_⟩
    rintro constant ⟨field, member, known⟩
    exact (fields field member).2 constant known

/-- A catalog that is built has its declarations rendered. They have one line for each constant, and no
other constants. All constants keep their values exactly when all fields of the catalog fit into bytes,
which is when the records do that it is built from. -/
theorem constants_isKept_iff {definitions : Definitions} {catalog : Catalog}
    (built : Catalog.build definitions = .ok catalog) (files : Files.Tree) :
    ∃ session, Session.fresh.addFixed files .builtIn headerName = (.ok (), session) ∧
      session.render headerName catalog = .ok (headerCode catalog).text ∧
      declaredConstants (headerCode catalog) = (constantsOf catalog).map Constant.fullName ∧
      (∀ constant ∈ constantsOf catalog, constant.line <:+: headerCode catalog) ∧
      ((∀ constant ∈ constantsOf catalog, constant.IsKept) ↔
        ∀ layout ∈ catalog.classes, ∀ field ∈ layout.items, field.FitsByte) ∧
      ((∀ constant ∈ constantsOf catalog, constant.IsKept) ↔
        ∀ record ∈ definitions.layouts.records, record.FitsByte) := by
  have collected := (Catalog.build_eq_ok_iff.mp built).2
  -- Fields are records with one taken from the position, so both fit or neither does.
  have records : (∀ record ∈ definitions.layouts.records, record.FitsByte) ↔
      ∀ layout ∈ catalog.classes, ∀ field ∈ layout.items, field.FitsByte :=
    LayoutClass.forall_records_iff_of_collect
      (fun _ _ described => described.fitsByte_iff) collected
  exact ⟨headerSession, addFixed_header files, render_header (items_ne_nil_of_build built),
    declaredConstants_headerCode catalog, fun _ => line_isInfix_of_mem, forall_isKept_iff catalog,
    (forall_isKept_iff catalog).trans records.symm⟩

/-- Definitions with the greatest position and size that fit, and with a size that is no number. -/
def greatestFitting : Definitions :=
  Definition.localDefinitions [⟨"a", "", "10", "", ""⟩] []
    [⟨"c", "p", "Req", 256, " 255 ", none⟩, ⟨"c", "q", "PosResp", 1, "0", none⟩,
      ⟨"d", "r", "Req", 2, "variable", none⟩]

/-- The greatest position and size that fit are kept. -/
theorem constants_isKept_iff_greatest :
    ∃ catalog, Catalog.build greatestFitting = .ok catalog ∧
      (constantsOf catalog).map (fun constant => (constant.fullName, constant.value)) =
        [("cReq::pPos", 255), ("cReq::qPos", 0), ("cReq::pSize", 255), ("cReq::qSize", 0),
          ("dReq::rPos", 1)] ∧
      ∀ constant ∈ constantsOf catalog, constant.IsKept := by
  obtain ⟨catalog, built, constants⟩ :
      ∃ catalog, Catalog.build greatestFitting = .ok catalog ∧
        (constantsOf catalog).map (fun constant => (constant.fullName, constant.value)) =
          [("cReq::pPos", 255), ("cReq::qPos", 0), ("cReq::pSize", 255), ("cReq::qSize", 0),
            ("dReq::rPos", 1)] :=
    exists_eq_ok_of_any (by decide +kernel)
  -- By the theorem it is enough to look at the records.
  obtain ⟨session, -, -, -, -, -, kept_iff⟩ := constants_isKept_iff built .empty
  exact ⟨catalog, built, constants, kept_iff.mpr (by decide +kernel)⟩

/-- A position of 257 and a size of -1 are loaded and built. Their constants are declared as bytes that
hold 0 and 255. -/
theorem constants_truncated :
    let services : List Record.Service := [⟨"a", "", "10", "", ""⟩]
    let layouts : List Record.Layout := [⟨"c", "p", "Req", 257, "-1", none⟩]
    Definition.localPaths.schemas = .builtIn ∧
    Definition.localPaths.load (Definition.localFiles services [] layouts) =
      .ok (Definition.localDefinitions services [] layouts) ∧
    ∃ catalog, Catalog.build (Definition.localDefinitions services [] layouts) = .ok catalog ∧
      Session.fresh.addFixed .empty .builtIn headerName = (.ok (), headerSession) ∧
      headerSession.render headerName catalog = .ok (headerCode catalog).text ∧
      (∃ layout ∈ catalog.classes, ∃ field ∈ layout.items,
        field.byteIndex = 256 ∧ field.size = some (-1)) ∧
      (constantsOf catalog).map (fun constant => (constant.name, constant.value, constant.stored)) =
        [("pPos", 256, 0), ("pSize", -1, 255)] ∧
      ∀ constant ∈ constantsOf catalog, constant.line <:+: headerCode catalog ∧ ¬ constant.IsKept := by
  intro services layouts
  -- The schema lets through any position from one on, and any text that is not empty as a size.
  have loaded : Definition.localPaths.load (Definition.localFiles services [] layouts) =
      .ok (Definition.localDefinitions services [] layouts) := by
    refine Definition.load_localFiles (List.forall_mem_singleton.mpr ⟨by decide +kernel, by decide⟩)
      (by simp) (List.forall_mem_singleton.mpr ?_)
    exact ⟨by decide +kernel, by decide, by decide, by decide, by decide⟩
  obtain ⟨catalog, built, fields, constants, changed⟩ :
      ∃ catalog, Catalog.build (Definition.localDefinitions services [] layouts) = .ok catalog ∧
        (∃ layout ∈ catalog.classes, ∃ field ∈ layout.items,
          field.byteIndex = 256 ∧ field.size = some (-1)) ∧
        (constantsOf catalog).map (fun constant => (constant.name, constant.value, constant.stored)) =
          [("pPos", 256, 0), ("pSize", -1, 255)] ∧
        ∀ constant ∈ constantsOf catalog, ¬ constant.IsKept :=
    exists_eq_ok_of_any (by decide +kernel)
  exact ⟨rfl, loaded, catalog, built, addFixed_header .empty,
    render_header (items_ne_nil_of_build built), fields, constants,
    fun constant member => ⟨line_isInfix_of_mem member, changed constant member⟩⟩

end Generation

end UdsCatalog
