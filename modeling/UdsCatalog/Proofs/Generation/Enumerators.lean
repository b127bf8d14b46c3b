import Mathlib
import UdsCatalog.Proofs.Definition.Writing
import UdsCatalog.Proofs.Generation.Supply

/-!
The enumerators of generated declarations. A range of sub-functions has two of them, whose names are
made of its own, and they are pairwise distinct exactly when no single sub-function has such a name.
-/

namespace UdsCatalog.Generation

/-- The names of the enumerators that declarations have. -/
def declaredEnumerators (code : Code) : List String := code.declaredNames Entity.enumeratorName?

/-- The names of the enumerators of a sub-function. -/
def enumeratorsOf (item : SubFunction) : List String := (valuesOf item).map Prod.fst

/-- A range has an enumerator for each of its ends. -/
theorem enumeratorsOf_range {item : SubFunction} (range : item.isRange = true) :
    enumeratorsOf item = [item.name ++ "Start", item.name ++ "End"] := by
  simp [enumeratorsOf, valuesOf, range]

/-- A single sub-function has one enumerator. -/
theorem enumeratorsOf_single {item : SubFunction} (single : item.isRange = false) :
    enumeratorsOf item = [item.name] := by
  simp [enumeratorsOf, valuesOf, single]

/-- The enumeration of a service has the enumerators of its sub-functions, in order. -/
theorem declaredEnumerators_subEnumeration (service : Service) :
    declaredEnumerators (subEnumeration service) = service.subFunctions.items.flatMap enumeratorsOf := by
  have lines : ∀ item, (subEnumeratorLines service item).declaredNames Entity.enumeratorName? =
      enumeratorsOf item := by
    intro item
    simp [subEnumeratorLines, subEnumerator, enumeratorsOf, List.map_eq_flatMap]
  by_cases some : service.hasSubFunctions = true
  · simp [declaredEnumerators, subEnumeration, some, lines]
  · -- Without sub-functions there is no enumeration at all.
    simp [declaredEnumerators, subEnumeration, some, items_eq_nil_of_not_hasSubFunctions some]

/-- The enumeration of each service stands in the declarations of its catalog. -/
theorem subEnumeration_infix {catalog : Catalog} {service : Service}
    (member : service ∈ catalog.services.items) : subEnumeration service <:+: headerCode catalog := by
  -- It stands among the enumerations of all services, which are one part of the declarations.
  exact (Code.infix_flatMap member subEnumeration).trans (List.infix_of_mem_flatten (by simp))

/-- The two ends of ranges have different names. -/
theorem start_ne_end (name other : String) : name ++ "Start" ≠ other ++ "End" := by
  -- The last characters are different ones.
  intro same
  have last := congrArg (fun text => text.toList.getLast?) same
  simp at last

/-- The enumerators of one sub-function are distinct. -/
theorem enumeratorsOf_nodup (item : SubFunction) : (enumeratorsOf item).Nodup := by
  cases range : item.isRange with
  | true => simp [enumeratorsOf_range range]
  | false => simp [enumeratorsOf_single range]

/-- A single sub-function has the name of an end of a range. -/
def NamesEnd (range single : SubFunction) : Prop :=
  range.isRange = true ∧ single.isRange = false ∧
    (single.name = range.name ++ "Start" ∨ single.name = range.name ++ "End")

/-- Two sub-functions of different names share an enumerator when one of them is named like an end of
the other one. -/
theorem disjoint_enumeratorsOf_iff {item other : SubFunction} (apart : item.name ≠ other.name) :
    (enumeratorsOf item).Disjoint (enumeratorsOf other) ↔ ¬ NamesEnd item other ∧ ¬ NamesEnd other item := by
  cases range : item.isRange with
  | true =>
    cases otherRange : other.isRange with
    | true =>
      -- The ends of one kind differ as the names do.
      simp [enumeratorsOf_range range, enumeratorsOf_range otherRange, NamesEnd, range, otherRange,
        apart.symm, start_ne_end, (start_ne_end _ _).symm]
    | false =>
      -- Only the ends of the first one can have the name of the second one.
      simp [enumeratorsOf_range range, enumeratorsOf_single otherRange, NamesEnd, range, otherRange]
  | false =>
    cases otherRange : other.isRange with
    | true =>
      simp [enumeratorsOf_single range, enumeratorsOf_range otherRange, NamesEnd, range, otherRange]
    | false =>
      simp [enumeratorsOf_single range, enumeratorsOf_single otherRange, NamesEnd, range, otherRange,
        apart.symm]

/-- The enumerators of sub-functions of different names are distinct when none of them is named like an
end of another one. -/
theorem enumeratorsOf_flatMap_nodup_iff {items : List SubFunction}
    (distinct : (items.map (·.name)).Nodup) :
    (items.flatMap enumeratorsOf).Nodup ↔
      ∀ range ∈ items, ∀ single ∈ items, ¬ NamesEnd range single := by
  have apart : ∀ item ∈ items, ∀ other ∈ items, item ≠ other → item.name ≠ other.name := by
    intro item member other among different same
    exact different ((List.nodup_map_iff_inj_on distinct.of_map).mp distinct item member other among same)
  rw [Code.nodup_names_iff distinct.of_map]
  constructor
  · rintro ⟨-, pairs⟩ range member single among named
    -- A range is no single sub-function, so the two are different.
    have different : range ≠ single := by
      rintro rfl
      exact Bool.false_ne_true (named.2.1.symm.trans named.1)
    have names := apart range member single among different
    exact ((disjoint_enumeratorsOf_iff names).mp (pairs range member single among different)).1 named
  · intro noClash
    refine ⟨fun item _ => enumeratorsOf_nodup item, ?_⟩
    intro item member other among different
    exact (disjoint_enumeratorsOf_iff (apart item member other among different)).mpr
      ⟨noClash item member other among, noClash other among item member⟩

/-- A catalog that is built has its declarations rendered, where the enumeration of each service
stands. If the names of its sub-functions are distinct, its enumerators are distinct exactly when no
single sub-function is named like an end of a range. -/
theorem declaredEnumerators_nodup_iff {definitions : Definitions} {catalog : Catalog}
    (built : Catalog.build definitions = .ok catalog) {service : Service}
    (member : service ∈ catalog.services.items)
    (distinct : (service.subFunctions.items.map (·.name)).Nodup) (files : Files.Tree) :
    ∃ session, Session.fresh.addFixed files .builtIn headerName = (.ok (), session) ∧
      session.render headerName catalog = .ok (headerCode catalog).text ∧
      subEnumeration service <:+: headerCode catalog ∧
      ((declaredEnumerators (subEnumeration service)).Nodup ↔
        ∀ range ∈ service.subFunctions.items, ∀ single ∈ service.subFunctions.items,
          ¬ NamesEnd range single) := by
  refine ⟨headerSession, addFixed_header files, render_header (items_ne_nil_of_build built),
    subEnumeration_infix member, ?_⟩
  rw [declaredEnumerators_subEnumeration]
  exact enumeratorsOf_flatMap_nodup_iff distinct

/-- Counting makes `xStart1` of the second `xStart`, so the range `x` and the first one share an
enumerator. -/
theorem declaredEnumerators_nodup_iff_counted :
    ∃ catalog, Catalog.build (Definition.localDefinitions [⟨"a", "", "10", "", ""⟩]
        [⟨"a", "x", "01to02", "", "", ""⟩, ⟨"a", "xStart", "03", "", "", ""⟩,
          ⟨"a", "xStart", "04", "", "", ""⟩] []) = .ok catalog ∧
      ∃ service ∈ catalog.services.items,
        service.subFunctions.items.map (·.name) = ["x", "xStart", "xStart1"] ∧
        ¬ (declaredEnumerators (subEnumeration service)).Nodup := by
  obtain ⟨catalog, built, service, member, names, range, first, single, second, named⟩ :
      ∃ catalog, Catalog.build (Definition.localDefinitions [⟨"a", "", "10", "", ""⟩]
          [⟨"a", "x", "01to02", "", "", ""⟩, ⟨"a", "xStart", "03", "", "", ""⟩,
            ⟨"a", "xStart", "04", "", "", ""⟩] []) = .ok catalog ∧
        ∃ service ∈ catalog.services.items,
          service.subFunctions.items.map (·.name) = ["x", "xStart", "xStart1"] ∧
          ∃ range ∈ service.subFunctions.items, ∃ single ∈ service.subFunctions.items,
            range.isRange = true ∧ single.isRange = false ∧
              (single.name = range.name ++ "Start" ∨ single.name = range.name ++ "End") :=
    exists_eq_ok_of_any (by decide +kernel)
  -- The single one has the name of the start of the range.
  obtain ⟨session, -, -, -, nodup_iff⟩ :=
    declaredEnumerators_nodup_iff built member (by rw [names]; decide) .empty
  exact ⟨catalog, built, service, member, names,
    fun nodup => nodup_iff.mp nodup range first single second named⟩

/-- A range `x` and a single sub-function `xStart` are loaded and built under distinct names, and the
enumerators that are printed for them have one name. -/
theorem declaredEnumerators_repeat :
    let services : List Record.Service := [⟨"a", "", "10", "", ""⟩]
    let subFunctions : List Record.SubFunction :=
      [⟨"a", "x", "01to02", "", "", ""⟩, ⟨"a", "xStart", "03", "", "", ""⟩]
    Definition.localPaths.schemas = .builtIn ∧
    Definition.localPaths.load (Definition.localFiles services subFunctions []) =
      .ok (Definition.localDefinitions services subFunctions []) ∧
    ∃ catalog, Catalog.build (Definition.localDefinitions services subFunctions []) = .ok catalog ∧
      Session.fresh.addFixed .empty .builtIn headerName = (.ok (), headerSession) ∧
      headerSession.render headerName catalog = .ok (headerCode catalog).text ∧
      ∃ service ∈ catalog.services.items, (service.subFunctions.items.map (·.name)).Nodup ∧
        subEnumeration service <:+: headerCode catalog ∧
        ¬ (declaredEnumerators (subEnumeration service)).Nodup := by
  intro services subFunctions
  -- The schema asks for identifiers, and both names are.
  have loaded : Definition.localPaths.load (Definition.localFiles services subFunctions []) =
      .ok (Definition.localDefinitions services subFunctions []) :=
    Definition.load_localFiles (List.forall_mem_singleton.mpr ⟨by decide +kernel, by decide⟩)
      (by simpa [subFunctions] using ⟨⟨by decide +kernel, by decide⟩, ⟨by decide +kernel, by decide⟩⟩)
      (by simp)
  obtain ⟨catalog, built, service, member, distinct, repeated⟩ :
      ∃ catalog, Catalog.build (Definition.localDefinitions services subFunctions []) = .ok catalog ∧
        ∃ service ∈ catalog.services.items, (service.subFunctions.items.map (·.name)).Nodup ∧
          ¬ (declaredEnumerators (subEnumeration service)).Nodup :=
    exists_eq_ok_of_any (by decide +kernel)
  exact ⟨rfl, loaded, catalog, built, addFixed_header .empty,
    render_header (items_ne_nil_of_build built), service, member, distinct,
    subEnumeration_infix member, repeated⟩

end UdsCatalog.Generation
