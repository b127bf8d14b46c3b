import UdsCatalog.Proofs.Catalog.Fields
import UdsCatalog.Proofs.Catalog.Services

/-!
Definitions that are rejected. Building a catalog looks at the fields of the records in one order, and
the first of them that is at fault makes the rejection.
-/

namespace UdsCatalog

/-- A field that is looked at: whose it is, what it holds and what is wrong with that. -/
structure Inspection where
  /-- The name of the record, as it is written. -/
  item : String
  field : String
  /-- The text of the field, as it is written. -/
  value : String
  /-- The file of the record's table. -/
  path : Files.Path
  fault? : Option Rejection.Cause
  deriving DecidableEq, Repr

/-- The rejection of a field that is at fault. -/
def Inspection.rejection? (inspection : Inspection) : Option Rejection :=
  inspection.fault?.map fun cause =>
    ⟨cause, inspection.item, inspection.field, inspection.value, inspection.path⟩

namespace SubFunction

/-- What is wrong with the values of a sub-function: one of them is no number of 32 bits, they are out
of order, or they do not fit a byte. -/
def valuesFault? (values : String) : Option Rejection.Cause :=
  match Numeral.parseHex 32 (bounds values).1, Numeral.parseHex 32 (bounds values).2 with
  | .ok start, .ok stop => if start ≤ stop ∧ stop ≤ 255 then none else some .outOfBound
  | _, _ => some .unreadable

/-- The look at a sub-function. -/
def inspection (path : Files.Path) (record : Record.SubFunction) : Inspection :=
  ⟨record.name, "Bit6to0", record.values, path, valuesFault? record.values⟩

/-- A sub-function is rejected for its values alone. -/
theorem rejection?_ofRecord (path : Files.Path) (record : Record.SubFunction) :
    rejection? (ofRecord path record) = (inspection path record).rejection? := by
  rw [ofRecord, inspection, valuesFault?, Inspection.rejection?]
  -- The first text is read before the second one, but either of them gives the same rejection.
  cases first : Numeral.parseHex 32 (bounds record.values).1 with
  | error fault => simp [first, valuesField]
  | ok start =>
    cases last : Numeral.parseHex 32 (bounds record.values).2 with
    | error fault => simp [first, last, valuesField]
    | ok stop =>
      have bound : (stop < start ∨ greatest < stop) ↔ ¬ (start ≤ stop ∧ stop ≤ 255) := by
        rw [greatest]
        omega
      by_cases fits : start ≤ stop ∧ stop ≤ 255 <;> simp [first, last, bound, fits, valuesField]

/-- The sub-functions of an owner are rejected as the first of them is that is rejected. -/
theorem rejection?_collect (owner : String) (table : Record.Table Record.SubFunction) :
    rejection? (collect owner table) =
      (ownedBy owner table).findSome? fun record => (inspection table.path record).rejection? := by
  rw [collect, (addAll_takesIn table.path).rejection?_run]
  simp only [rejection?_ofRecord, ownedBy]

end SubFunction

namespace Service

/-- What is wrong with the code of a service: it is no number, or it does not fit a byte. The blanks
around it do not count, and a number is never too long to be one. -/
def codeFault? (hex : String) : Option Rejection.Cause :=
  match Numeral.parseHex 64 (String.ofList (Text.trim hex.toList)) with
  | .ok code => if code ≤ 255 then none else some .outOfBound
  | .error .overflow => some .outOfBound
  | .error _ => some .unreadable

/-- The looks at a service: first its own code, then the sub-functions that name it as their owner, in
the order of their table. -/
def inspections (path : Files.Path) (subFunctions : Record.Table Record.SubFunction)
    (record : Record.Service) : List Inspection :=
  ⟨record.name, "Hex", record.hex, path, codeFault? record.hex⟩ ::
    (SubFunction.ownedBy record.name subFunctions).map (SubFunction.inspection subFunctions.path)

/-- A code is rejected for its text alone. -/
theorem rejection?_readCode (path : Files.Path) (record : Record.Service) :
    rejection? (readCode path record) =
      Inspection.rejection? ⟨record.name, "Hex", record.hex, path, codeFault? record.hex⟩ := by
  -- The inspection repeats the reading, so the two agree in each outcome of the reader.
  rw [readCode, codeFault?, Inspection.rejection?]
  cases parsed : Numeral.parseHex 64 (String.ofList (Text.trim record.hex.toList)) with
  | error fault => cases fault <;> simp [codeField]
  | ok code =>
    have bound : code < codeBound ↔ code ≤ 255 := Nat.lt_succ_iff
    by_cases fits : code ≤ 255 <;> simp [bound, fits, codeField]

/-- A service is rejected for its code, and else as its sub-functions are. -/
theorem rejection?_ofRecord (path : Files.Path) (subFunctions : Record.Table Record.SubFunction)
    (record : Record.Service) :
    rejection? (ofRecord path subFunctions record) =
      (inspections path subFunctions record).findSome? Inspection.rejection? := by
  have ofCode := rejection?_readCode path record
  have ofSubFunctions := SubFunction.rejection?_collect record.name subFunctions
  rw [inspections, List.findSome?_cons, List.findSome?_map, ← ofCode, ofRecord]
  -- The sub-functions are collected only when the code is there.
  cases readCode path record with
  | error rejection => rfl
  | ok code =>
    refine Eq.trans ?_ ofSubFunctions
    cases SubFunction.collect record.name subFunctions <;> rfl

/-- Services are rejected as the first of them is that is rejected. -/
theorem rejection?_collect (services : Record.Table Record.Service)
    (subFunctions : Record.Table Record.SubFunction) :
    rejection? (collect services subFunctions) =
      (services.records.flatMap (inspections services.path subFunctions)).findSome?
        Inspection.rejection? := by
  rw [collect, (addAll_takesIn services.path subFunctions).rejection?_run, findSome?_flatMap]
  simp only [rejection?_ofRecord]

end Service

namespace LayoutField

/-- What is wrong with the tag of a direction: it is none of the three. -/
def directionFault? (tag : String) : Option Rejection.Cause :=
  if tag ∈ ["Req", "PosResp", "NegResp"] then none else some .unreadable

/-- What is wrong with a position: it does not count from one. -/
def positionFault? (position : Nat) : Option Rejection.Cause :=
  if 1 ≤ position then none else some .outOfBound

/-- The looks at a field of a message: first its direction, then its position. -/
def inspections (path : Files.Path) (record : Record.Layout) : List Inspection :=
  [⟨record.name, "ReqResp", record.direction, path, directionFault? record.direction⟩,
    ⟨record.name, "DataByte", toString record.dataByte, path, positionFault? record.dataByte⟩]

/-- Only the three tags name a direction. -/
theorem directionFault?_eq_none_iff (tag : String) :
    directionFault? tag = none ↔ ∃ direction, Direction.ofTag? tag = some direction := by
  -- The list that is searched holds the tags of the directions.
  simp only [directionFault?, Direction.ofTag?_eq_some_iff, ite_eq_left_iff, reduceCtorEq, imp_false,
    not_not]
  exact Direction.mem_tags_iff tag

/-- A field of a message is rejected for its direction, and else for its position. -/
theorem rejection?_ofRecord (path : Files.Path) (record : Record.Layout) :
    rejection? (ofRecord path record) =
      (inspections path record).findSome? Inspection.rejection? := by
  rw [ofRecord]
  have known := directionFault?_eq_none_iff record.direction
  cases named : Direction.ofTag? record.direction with
  | none =>
    have fault : directionFault? record.direction = some .unreadable := by
      simpa [named, directionFault?] using known
    simp [inspections, List.findSome?_cons, fault, Inspection.rejection?, directionField]
  | some direction =>
    have fault : directionFault? record.direction = none := known.mpr ⟨direction, named⟩
    -- Only the position zero is left to be refused, and it is written as such.
    cases position : record.dataByte with
    | zero =>
      have zero : Nat.repr 0 = "0" := rfl
      simp [inspections, List.findSome?_cons, fault, position, positionFault?, Inspection.rejection?,
        positionField, zero]
    | succ index =>
      simp [inspections, List.findSome?_cons, fault, position, positionFault?, Inspection.rejection?]

end LayoutField

/-- Layouts are rejected as the first of their records is that is rejected, whatever its class. -/
theorem LayoutClass.rejection?_collect (table : Record.Table Record.Layout) :
    rejection? (collect table) =
      (table.records.flatMap (LayoutField.inspections table.path)).findSome? Inspection.rejection? := by
  rw [collect, (placeAll_takesIn table.path).rejection?_run, findSome?_flatMap]
  simp only [LayoutField.rejection?_ofRecord]

namespace Catalog

/-- The looks at definitions: those at all services with their sub-functions, then those at the layouts,
each table in its order. -/
def inspections (definitions : Definitions) : List Inspection :=
  definitions.services.records.flatMap
      (Service.inspections definitions.services.path definitions.subFunctions) ++
    definitions.layouts.records.flatMap (LayoutField.inspections definitions.layouts.path)

/-- Definitions are rejected as the first field is that is at fault. -/
theorem rejection?_build (definitions : Definitions) :
    rejection? (build definitions) = (inspections definitions).findSome? Inspection.rejection? := by
  rw [inspections, List.findSome?_append, ← Service.rejection?_collect,
    ← LayoutClass.rejection?_collect, build]
  -- The layouts are collected only when the services are there.
  cases Service.collect definitions.services definitions.subFunctions with
  | error rejection => rfl
  | ok services => cases LayoutClass.collect definitions.layouts <;> rfl

/-- Building a catalog fails exactly when a field that is looked at is at fault, and the first such field
makes the rejection: it names the record and its file, and shows the field as it is written. -/
theorem build_eq_error_iff_first (definitions : Definitions) :
    ((∃ rejection, build definitions = .error rejection) ↔
      ∃ inspection ∈ inspections definitions, ∃ cause, inspection.fault? = some cause) ∧
    ∀ rejection, build definitions = .error rejection ↔
      ∃ before first after, inspections definitions = before ++ first :: after ∧
        (∀ inspection ∈ before, inspection.fault? = none) ∧
        ∃ cause, first.fault? = some cause ∧
          rejection = ⟨cause, first.item, first.field, first.value, first.path⟩ := by
  -- Building fails exactly as the first inspection that finds a fault says.
  have first : ∀ rejection, build definitions = .error rejection ↔
      (inspections definitions).findSome? Inspection.rejection? = some rejection := by
    intro rejection
    rw [← rejection?_eq_some_iff, rejection?_build]
  constructor
  · simp only [first, ← Option.isSome_iff_exists, List.findSome?_isSome_iff, Inspection.rejection?,
      Option.isSome_map]
  · intro rejection
    -- What stands in front of the first one found has been passed without a fault.
    rw [first, List.findSome?_eq_some_iff]
    simp only [Inspection.rejection?, Option.map_eq_some_iff, Option.map_eq_none_iff]
    constructor
    · rintro ⟨before, found, after, whole, ⟨cause, fault, rfl⟩, sound⟩
      exact ⟨before, found, after, whole, sound, cause, fault, rfl⟩
    · rintro ⟨before, found, after, whole, sound, cause, fault, rfl⟩
      exact ⟨before, found, after, whole, ⟨cause, fault, rfl⟩, sound⟩

/-- Definitions with a fault in each table: a range of the first service is out of order, the code of the
second one is no number, and a layout has neither a direction nor a position. -/
def faultyEverywhere : Definitions where
  services := ⟨"serv.json", [⟨"a", "", "10", "", ""⟩, ⟨"a", "", "1G", "", ""⟩]⟩
  subFunctions := ⟨"serv_sub.json", [⟨"b", "y", "", "", "", ""⟩, ⟨"a", "x", "05 to 03", "", "", ""⟩]⟩
  layouts := ⟨"req_resp.json", [⟨"c", "p", "Resp", 0, "", none⟩]⟩

/-- The range is looked at first, since the record without values has no listed owner. -/
theorem build_eq_error_iff_first_everywhere :
    build faultyEverywhere =
      .error ⟨.outOfBound, "x", "Bit6to0", "05 to 03", "serv_sub.json"⟩ := by
  refine ((build_eq_error_iff_first faultyEverywhere).2 _).mpr ?_
  refine ⟨(inspections faultyEverywhere).take 1, _, (inspections faultyEverywhere).drop 2, rfl, ?_,
    .outOfBound, ?_, rfl⟩
  · decide +kernel
  · decide +kernel

end Catalog

end UdsCatalog
