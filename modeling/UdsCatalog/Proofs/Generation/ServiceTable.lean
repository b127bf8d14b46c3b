import Mathlib
import UdsCatalog.Proofs.Definition.Writing
import UdsCatalog.Proofs.Generation.Numbers
import UdsCatalog.Proofs.Numeral.Spelling

/-!
The table of services in generated code. Its keys are the codes of the services, so it has an entry for
each of them exactly when no two services have one code, in whatever way the codes are written.
-/

namespace UdsCatalog.Generation

/-- The codes of the services of a catalog. -/
def codesOf (catalog : Catalog) : List Nat := catalog.services.items.map (·.code)

/-- The table that the entries of services make: under each code, the variable of the service that was
entered last. -/
def serviceTable (catalog : Catalog) : Std.TreeMap Nat Entity :=
  .ofList (catalog.services.items.map fun service => (service.code, serviceVariable service))

/-- A table that is made from a list has as many entries as there are different keys. -/
theorem size_ofList_eq {α : Type} (entries : List (Nat × α)) :
    (Std.TreeMap.ofList entries).size = (entries.map Prod.fst).dedup.length := by
  rw [← Std.TreeMap.length_keys]
  -- The keys of the table are those of the list, each of them once.
  refine List.Perm.length_eq ((List.perm_ext_iff_of_nodup Std.TreeMap.nodup_keys
    (List.nodup_dedup _)).mpr fun key => ?_)
  simp

/-- The table has an entry for each service exactly when their codes are pairwise distinct. -/
theorem size_serviceTable_eq_iff (catalog : Catalog) :
    (serviceTable catalog).size = catalog.services.items.length ↔ (codesOf catalog).Nodup := by
  have codes : (catalog.services.items.map fun service =>
      (service.code, serviceVariable service)).map Prod.fst = codesOf catalog := by
    simp [codesOf]
  have entries : (codesOf catalog).length = catalog.services.items.length := List.length_map _
  -- Leaving out repeats makes a list shorter unless it has none.
  rw [serviceTable, size_ofList_eq, codes, ← entries, ← List.dedup_eq_self]
  exact ⟨(List.dedup_sublist _).eq_of_length, fun same => by rw [same]⟩

/-- Under each code stands the last service that has it. -/
theorem getElem?_serviceTable (catalog : Catalog) (code : Nat) :
    (serviceTable catalog)[code]? =
      (catalog.services.items.findRev? (·.code == code)).map serviceVariable := by
  -- Both searches go through the services from the last one on.
  rw [serviceTable, Std.TreeMap.ofList_eq_insertMany_empty, Std.TreeMap.getElem?_insertMany_list,
    Std.TreeMap.getElem?_emptyc, Option.or_none, List.findSomeRev?_eq_findSome?_reverse, ← List.map_reverse,
    List.findSome?_map, List.findRev?_eq_find?_reverse, List.find?_eq_findSome?_guard, List.map_findSome?]
  refine congrArg (List.findSome? · _) (funext fun service => ?_)
  by_cases same : service.code = code
  · simp [same]
  · simp [same, Option.guard]

/-- The digits of the codes are those that count of how the records write them. -/
theorem map_digits_codesOf {definitions : Definitions} {catalog : Catalog}
    (built : Catalog.build definitions = .ok catalog) :
    (codesOf catalog).map (fun code => (Nat.digits 16 code).reverse) =
      definitions.services.records.map fun record => Numeral.significantDigits record.hex := by
  have described := Service.collect_describes (Catalog.build_eq_ok_iff.mp built).1
  rw [codesOf, List.map_map, ← List.forall₂_eq_eq_eq, List.forall₂_map_left_iff,
    List.forall₂_map_right_iff]
  refine described.flip.imp fun service record describes => ?_
  rw [Function.comp_apply, Numeral.digits_of_parseHex describes.code, List.reverse_reverse]

/-- Codes are pairwise distinct exactly when the records write them with different digits. -/
theorem codesOf_nodup_iff {definitions : Definitions} {catalog : Catalog}
    (built : Catalog.build definitions = .ok catalog) :
    (codesOf catalog).Nodup ↔ (definitions.services.records.map fun record =>
      Numeral.significantDigits record.hex).Nodup := by
  -- A number has digits of its own.
  have injective : Function.Injective fun code => (Nat.digits 16 code).reverse :=
    List.reverse_injective.comp (Nat.digits.injective 16)
  rw [← map_digits_codesOf built, List.nodup_map_iff injective]

/-- The codes of a catalog that is built fit a byte. -/
theorem code_le_of_build {definitions : Definitions} {catalog : Catalog}
    (built : Catalog.build definitions = .ok catalog) {service : Service}
    (member : service ∈ catalog.services.items) : service.code ≤ 255 := by
  have described := Service.collect_describes (Catalog.build_eq_ok_iff.mp built).1
  obtain ⟨record, -, describes⟩ := exists_of_forall₂ described member
  exact Nat.le_of_lt_succ describes.code_lt

/-- A catalog that is built has both files rendered. The declarations give each service an enumerator of
its code, whose literal reads back as the code, and the definitions have an entry of each service in the
table of services. The table has as many entries as there are services exactly when their codes are
pairwise distinct, which is when the records write them with different digits; else only the last
service of a code is in the table. -/
theorem serviceTable_complete_iff {definitions : Definitions} {catalog : Catalog}
    (built : Catalog.build definitions = .ok catalog) (files : Files.Tree) :
    ∃ withHeader withSource,
      Session.fresh.addFixed files .builtIn headerName = (.ok (), withHeader) ∧
      withHeader.addFixed files .builtIn sourceName = (.ok (), withSource) ∧
      withSource.render headerName catalog = .ok (headerCode catalog).text ∧
      withSource.render sourceName catalog = .ok (sourceCode catalog).text ∧
      (∀ service ∈ catalog.services.items, enumeratorLine service <:+: headerCode catalog ∧
        Numeral.parseHex 8 (Numeral.hexLiteral service.code) = .ok service.code) ∧
      catalog.services.items.flatMap serviceEntry <:+: sourceCode catalog ∧
      ((serviceTable catalog).size = catalog.services.items.length ↔ (codesOf catalog).Nodup) ∧
      ((codesOf catalog).Nodup ↔ (definitions.services.records.map fun record =>
        Numeral.significantDigits record.hex).Nodup) ∧
      ∀ code, (serviceTable catalog)[code]? =
        (catalog.services.items.findRev? (·.code == code)).map serviceVariable := by
  have filled := items_ne_nil_of_build built
  refine ⟨headerSession, pairSession, addFixed_header files, addFixed_source files,
    render_header_of_pair filled, render_source filled, ?_, List.infix_of_mem_flatten (by simp),
    size_serviceTable_eq_iff catalog, codesOf_nodup_iff built, getElem?_serviceTable catalog⟩
  intro service member
  -- The line of the service stands among those of all services, which are one part of the declarations.
  exact ⟨(Code.infix_flatMap member enumeratorLine).trans (List.infix_of_mem_flatten (by simp)),
    parseHex_hexLiteral_of_byte (code_le_of_build built member) le_rfl⟩

/-- Three codes that are written with a marker, a sign, a zero in front, a small letter and blanks are
three entries of the table. -/
theorem serviceTable_complete_iff_variously_written :
    ∃ catalog, Catalog.build (Definition.localDefinitions
        [⟨"a", "", "0x3E", "", ""⟩, ⟨"b", "", " 03f", "", ""⟩, ⟨"c", "", "+3\t", "", ""⟩] [] []) =
          .ok catalog ∧
      codesOf catalog = [0x3E, 0x3F, 3] ∧ (serviceTable catalog).size = 3 := by
  obtain ⟨catalog, built, codes, three⟩ :
      ∃ catalog, Catalog.build (Definition.localDefinitions
          [⟨"a", "", "0x3E", "", ""⟩, ⟨"b", "", " 03f", "", ""⟩, ⟨"c", "", "+3\t", "", ""⟩] [] []) =
            .ok catalog ∧
        codesOf catalog = [0x3E, 0x3F, 3] ∧ catalog.services.items.length = 3 :=
    exists_eq_ok_of_any (by decide +kernel)
  -- The written texts differ in their digits, so no code is lost.
  obtain ⟨withHeader, withSource, -, -, -, -, -, -, complete_iff, distinct_iff, -⟩ :=
    serviceTable_complete_iff built .empty
  exact ⟨catalog, built, codes, (complete_iff.mpr (distinct_iff.mpr (by decide +kernel))).trans three⟩

/-- Two services of one code, which one of them writes with a blank, a marker and a zero in front, are
loaded and built under distinct names. Both are entered in the table of services, and the first one is
lost from it. -/
theorem serviceTable_loses_service :
    let services : List Record.Service := [⟨"a", "", "10", "", ""⟩, ⟨"b", "", " 0X010", "", ""⟩]
    Definition.localPaths.schemas = .builtIn ∧
    Definition.localPaths.load (Definition.localFiles services [] []) =
      .ok (Definition.localDefinitions services [] []) ∧
    ∃ catalog, Catalog.build (Definition.localDefinitions services [] []) = .ok catalog ∧
      catalog.services.items.map (·.name) = ["a", "b"] ∧ codesOf catalog = [0x10, 0x10] ∧
      pairSession.render sourceName catalog = .ok (sourceCode catalog).text ∧
      catalog.services.items.flatMap serviceEntry <:+: sourceCode catalog ∧
      (serviceTable catalog).size ≠ catalog.services.items.length ∧
      (serviceTable catalog)[0x10]? = some (.variable "Serv" "servB") := by
  intro services
  have loaded : Definition.localPaths.load (Definition.localFiles services [] []) =
      .ok (Definition.localDefinitions services [] []) :=
    Definition.load_localFiles
      (by simpa [services] using ⟨⟨by decide +kernel, by decide⟩, ⟨by decide +kernel, by decide⟩⟩)
      (by simp) (by simp)
  obtain ⟨catalog, built, names, codes, last⟩ :
      ∃ catalog, Catalog.build (Definition.localDefinitions services [] []) = .ok catalog ∧
        catalog.services.items.map (·.name) = ["a", "b"] ∧ codesOf catalog = [0x10, 0x10] ∧
        (catalog.services.items.findRev? (·.code == 0x10)).map serviceVariable =
          some (.variable "Serv" "servB") :=
    exists_eq_ok_of_any (by decide +kernel)
  refine ⟨rfl, loaded, catalog, built, names, codes, render_source (items_ne_nil_of_build built),
    List.infix_of_mem_flatten (by simp), ?_, (getElem?_serviceTable catalog 0x10).trans last⟩
  -- A table of both services would need two codes.
  rw [Ne, size_serviceTable_eq_iff, codes]
  decide

end UdsCatalog.Generation
