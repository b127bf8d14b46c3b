import Mathlib
import UdsCatalog.Proofs.Catalog.Identifiers
import UdsCatalog.Proofs.Definition.Writing
import UdsCatalog.Proofs.Generation.Supply

/-!
The variables of generated declarations. Their names are put together from capitalized names, and they
are pairwise distinct exactly when no name is another one capitalized and no variable of a service goes
on where the name of another service does.
-/

namespace UdsCatalog.Generation

open Text (capitalizeFirst isIdentifier)

/-- The names of the variables that declarations have. -/
def declaredVariables (code : Code) : List String := code.declaredNames Entity.variableName?

/-- What the names of a service's variables end in: those of its sub-functions, that of their table and
its own one. -/
def endings (service : Service) : List String :=
  (service.subFunctions.items.map fun item => "Sub" ++ capitalizeFirst item.name) ++ ["Sub", ""]

/-- The name of a service's variable with an ending. -/
def variableName (service : Service) (ending : String) : String :=
  "serv" ++ (capitalizeFirst service.name ++ ending)

/-- The names of the variables of a service. -/
def variablesOf (service : Service) : List String := (endings service).map (variableName service)

/-- The lines of a service's sub-functions declare a variable for each. -/
theorem subVariableLines_variables (service : Service) :
    (subVariableLines service).declaredNames Entity.variableName? =
      service.subFunctions.items.map fun item =>
        variableName service ("Sub" ++ capitalizeFirst item.name) := by
  by_cases some : service.hasSubFunctions = true
  · simp [subVariableLines, some, variableLine, subVariable, variableName, String.append_assoc,
      ← List.map_eq_flatMap]
  · -- Without sub-functions nothing is printed, and there is none to name.
    simp [subVariableLines, some, items_eq_nil_of_not_hasSubFunctions some]

/-- Enumerators of services are no variables. -/
theorem enumeratorLine_variables (service : Service) :
    (enumeratorLine service).declaredNames Entity.variableName? = [] := by
  simp [enumeratorLine, serviceEnumerator]

/-- Enumerators of sub-functions are no variables. -/
theorem subEnumeration_variables (service : Service) :
    (subEnumeration service).declaredNames Entity.variableName? = [] := by
  by_cases some : service.hasSubFunctions = true
  · simp [subEnumeration, some, subEnumeratorLines, subEnumerator]
  · simp [subEnumeration, some]

/-- The members of classes are no variables. -/
theorem classDeclaration_variables (layout : LayoutClass) :
    (classDeclaration layout).declaredNames Entity.variableName? = [] := by
  have sizes : ∀ owner field, (sizeLine owner field).declaredNames Entity.variableName? = [] := by
    intro owner field
    cases size : field.size <;> simp [sizeLine, size, sizeOf]
  simp [classDeclaration, methodLines, positionLine, testOf, getterOf, positionOf, sizes]

/-- The variables of a catalog are grouped by what they are of. -/
theorem declaredVariables_headerCode (catalog : Catalog) :
    declaredVariables (headerCode catalog) =
      (catalog.services.items.flatMap fun service =>
        service.subFunctions.items.map fun item =>
          variableName service ("Sub" ++ capitalizeFirst item.name)) ++
      (catalog.services.items.flatMap fun service => [variableName service "Sub"]) ++
      (catalog.services.items.flatMap fun service => [variableName service ""]) ++ ["serv"] := by
  -- Whatever is no variable adds nothing for any service or class, and is dropped.
  simp [Code.flatMap_nothing, declaredVariables, headerCode, enumeratorLine_variables, subEnumeration_variables,
    classDeclaration_variables, subVariableLines_variables, variableLine, tableVariable,
    serviceVariable, servicesVariable, variableName, String.append_assoc]

/-- Each service takes its own variables from these groups, and one is left for all services. -/
theorem declaredVariables_perm (catalog : Catalog) :
    (declaredVariables (headerCode catalog)).Perm
      (catalog.services.items.flatMap variablesOf ++ ["serv"]) := by
  rw [declaredVariables_headerCode]
  refine List.Perm.append_right _ ?_
  -- Two groups at a time are put together service by service.
  refine ((List.flatMap_append_perm _ _ _).append_right _).trans ?_
  refine (List.flatMap_append_perm _ _ _).trans (.of_eq ?_)
  have own : ∀ service, variablesOf service =
      (service.subFunctions.items.map fun item =>
        variableName service ("Sub" ++ capitalizeFirst item.name)) ++
      [variableName service "Sub"] ++ [variableName service ""] := by
    intro service
    simp [variablesOf, endings, Function.comp_def]
  rw [funext own]

/-- The names of the variables of two services differ after the same letters. -/
theorem variableName_inj {service other : Service} {ending otherEnding : String} :
    variableName service ending = variableName other otherEnding ↔
      capitalizeFirst service.name ++ ending = capitalizeFirst other.name ++ otherEnding := by
  simp [variableName]

/-- One of the names is another one capitalized. -/
def CapitalTwins (names : List String) : Prop :=
  ∃ name ∈ names, capitalizeFirst name ∈ names ∧ capitalizeFirst name ≠ name

/-- Distinct identifiers stay distinct when they are capitalized, unless one of them is another one
capitalized. -/
theorem map_capitalizeFirst_nodup_iff {names : List String}
    (identifiers : ∀ name ∈ names, isIdentifier name = true) (distinct : names.Nodup) :
    (names.map capitalizeFirst).Nodup ↔ ¬ CapitalTwins names := by
  rw [List.nodup_map_iff_inj_on distinct]
  constructor
  · -- A name and the same name capitalized are capitalized to one text.
    rintro injective ⟨name, member, capital, changed⟩
    have again := Text.capitalizeFirst_capitalizeFirst (identifiers name member)
    exact changed (injective _ capital _ member again)
  · -- Only these two ways are there for two identifiers to be capitalized to one text.
    intro apart first member second among same
    rcases (Text.capitalizeFirst_eq_iff (identifiers first member)
        (identifiers second among)).mp same with equal | rfl | rfl
    · exact equal
    · by_contra changed
      exact apart ⟨first, member, among, Ne.symm changed⟩
    · by_contra changed
      exact apart ⟨second, among, member, changed⟩

/-- The endings of a service are distinct when the capitalized names of its sub-functions are. -/
theorem endings_nodup_iff {service : Service}
    (identifiers : ∀ item ∈ service.subFunctions.items, isIdentifier item.name = true) :
    (endings service).Nodup ↔
      ((service.subFunctions.items.map (·.name)).map capitalizeFirst).Nodup := by
  have prefixed : (service.subFunctions.items.map fun item => "Sub" ++ capitalizeFirst item.name) =
      ((service.subFunctions.items.map (·.name)).map capitalizeFirst).map ("Sub" ++ ·) := by
    simp [Function.comp_def]
  -- What all endings of sub-functions begin with does not tell them apart.
  have front : Function.Injective ("Sub" ++ · : String → String) := by
    intro name other same
    simpa using same
  -- A capitalized name adds something, so the endings of sub-functions are longer than the other two.
  have longer : ∀ name ∈ (service.subFunctions.items.map (·.name)).map capitalizeFirst,
      ∀ other ∈ ["Sub", ""], "Sub" ++ name ≠ other := by
    simp only [List.forall_mem_map, List.forall_mem_cons, List.not_mem_nil, false_implies,
      implies_true, and_true]
    intro item member
    constructor
    · intro same
      refine Text.capitalizeFirst_ne_empty (identifiers item member) ?_
      simpa using congrArg String.toList same
    · intro same
      simpa using congrArg String.toList same
  rw [endings, prefixed, List.nodup_append, List.nodup_map_iff front, List.forall_mem_map]
  exact ⟨And.left, fun distinct => ⟨distinct, by decide, longer⟩⟩

/-- The variables of one service are distinct when none of its sub-functions is another one
capitalized. -/
theorem variablesOf_nodup_iff {service : Service}
    (identifiers : ∀ item ∈ service.subFunctions.items, isIdentifier item.name = true)
    (distinct : (service.subFunctions.items.map (·.name)).Nodup) :
    (variablesOf service).Nodup ↔ ¬ CapitalTwins (service.subFunctions.items.map (·.name)) := by
  -- What is put in front of the endings is the same for all of them.
  have injective : Function.Injective (variableName service) := by
    intro ending other same
    simpa [variableName] using same
  rw [variablesOf, List.nodup_map_iff injective, endings_nodup_iff identifiers]
  exact map_capitalizeFirst_nodup_iff (List.forall_mem_map.mpr identifiers) distinct

/-- The name of a service goes on where that of another one ends, with letters that a variable of the
other one has there too. -/
def Continues (shorter longer : Service) : Prop :=
  ∃ more ≠ "", capitalizeFirst longer.name = capitalizeFirst shorter.name ++ more ∧
    ∃ ending ∈ endings longer, more ++ ending ∈ endings shorter

/-- Two services share a variable when their capitalized names are the same or one continues the
other. -/
theorem disjoint_variablesOf_iff (service other : Service) :
    (variablesOf service).Disjoint (variablesOf other) ↔
      capitalizeFirst service.name ≠ capitalizeFirst other.name ∧
        ¬ Continues service other ∧ ¬ Continues other service := by
  have table : ∀ service, "" ∈ endings service := fun service => by simp [endings]
  simp only [List.disjoint_left, variablesOf, List.forall_mem_map]
  constructor
  · intro disjoint
    refine ⟨?_, ?_, ?_⟩
    · -- Of two services with one name the variables without ending are the same.
      intro same
      exact disjoint "" (table service) (List.mem_map.mpr ⟨"", table other, by simp [variableName, same]⟩)
    · -- What the longer name has more is the front of an ending of the shorter one.
      rintro ⟨more, -, longer, ending, among, shared⟩
      refine disjoint _ shared (List.mem_map.mpr ⟨ending, among, ?_⟩)
      rw [variableName_inj, longer, String.append_assoc]
    · rintro ⟨more, -, longer, ending, among, shared⟩
      refine disjoint ending among (List.mem_map.mpr ⟨_, shared, ?_⟩)
      rw [variableName_inj, longer, String.append_assoc]
  · rintro ⟨apart, noLonger, noShorter⟩ ending member shared
    obtain ⟨otherEnding, among, same⟩ := List.mem_map.mp shared
    -- One of the two names ends first, and the other one goes on from there.
    rcases NameRegistry.append_eq_append_cases (variableName_inj.mp same) with
      ⟨more, longer, rest⟩ | ⟨more, longer, rest⟩
    · refine noShorter ⟨more, ?_, longer, ending, member, rest ▸ among⟩
      rintro rfl
      exact apart (by simpa using longer)
    · refine noLonger ⟨more, ?_, longer, otherEnding, among, rest ▸ member⟩
      rintro rfl
      exact apart (by simpa using longer.symm)

/-- Two variables of services have one name. -/
inductive VariablesClash (services : List Service) : Prop
  /-- Two sub-functions of a service are told by a capital letter alone. -/
  | subFunctions (service : Service) (member : service ∈ services)
      (twins : CapitalTwins (service.subFunctions.items.map (·.name)))
  /-- Two services are told by a capital letter alone. -/
  | services (twins : CapitalTwins (services.map (·.name)))
  /-- What one service adds to its name is a part of the name of another one. -/
  | continued (shorter longer : Service) (member : shorter ∈ services) (among : longer ∈ services)
      (continues : Continues shorter longer)

/-- The variables of services with distinct identifiers as names are distinct when none of them clash. -/
theorem variablesOf_flatMap_nodup_iff {services : List Service}
    (identifiers : ∀ service ∈ services, isIdentifier service.name = true ∧
      ∀ item ∈ service.subFunctions.items, isIdentifier item.name = true)
    (distinct : (services.map (·.name)).Nodup)
    (distinctSubs : ∀ service ∈ services, (service.subFunctions.items.map (·.name)).Nodup) :
    (services.flatMap variablesOf).Nodup ↔ ¬ VariablesClash services := by
  have each : ∀ service ∈ services, (variablesOf service).Nodup ↔
      ¬ CapitalTwins (service.subFunctions.items.map (·.name)) := fun service member =>
    variablesOf_nodup_iff (identifiers service member).2 (distinctSubs service member)
  -- Two services with one capitalized name are the same or told by a capital letter alone.
  have capitals := map_capitalizeFirst_nodup_iff
    (List.forall_mem_map.mpr fun service member => (identifiers service member).1) distinct
  rw [List.map_map, List.nodup_map_iff_inj_on distinct.of_map] at capitals
  rw [Code.nodup_names_iff distinct.of_map]
  constructor
  · rintro ⟨alone, pairs⟩ clash
    cases clash with
    | subFunctions service member twins => exact (each service member).mp (alone service member) twins
    | services twins =>
      refine capitals.mp ?_ twins
      intro service member other among same
      by_contra apart
      exact ((disjoint_variablesOf_iff service other).mp (pairs service member other among apart)).1 same
    | continued shorter longer member among continues =>
      refine ((disjoint_variablesOf_iff shorter longer).mp (pairs shorter member longer among ?_)).2.1 continues
      -- A name does not go on where it ends itself.
      rintro rfl
      obtain ⟨more, some, longer, -⟩ := continues
      exact some (by simpa using congrArg String.toList longer)
  · intro noClash
    refine ⟨fun service member => (each service member).mpr fun twins =>
      noClash (.subFunctions service member twins), ?_⟩
    intro service member other among apart
    refine (disjoint_variablesOf_iff service other).mpr ⟨fun same => apart ?_, ?_, ?_⟩
    · exact capitals.mpr (fun twins => noClash (.services twins)) service member other among same
    · exact fun continues => noClash (.continued service other member among continues)
    · exact fun continues => noClash (.continued other service among member continues)

/-- Definitions that are loaded with the built-in schemas and built, and whose names are distinct in
each scope, have their declarations rendered, and the variables there are distinct exactly when none
of them clash. -/
theorem declaredVariables_nodup_iff {paths : Definition.Paths} {tree : Files.Tree}
    {definitions : Definitions} {catalog : Catalog} (builtIn : paths.schemas = .builtIn)
    (loaded : paths.load tree = .ok definitions) (built : Catalog.build definitions = .ok catalog)
    (distinct : (catalog.services.items.map (·.name)).Nodup)
    (distinctSubs : ∀ service ∈ catalog.services.items,
      (service.subFunctions.items.map (·.name)).Nodup) (files : Files.Tree) :
    ∃ session, Session.fresh.addFixed files .builtIn headerName = (.ok (), session) ∧
      session.render headerName catalog = .ok (headerCode catalog).text ∧
      ((declaredVariables (headerCode catalog)).Nodup ↔ ¬ VariablesClash catalog.services.items) := by
  refine ⟨headerSession, addFixed_header files, render_header (items_ne_nil_of_build built), ?_⟩
  have identifiers : catalog.HasIdentifiers := Catalog.hasIdentifiers_of_load builtIn loaded built
  -- The table of all services has a shorter name than every other variable.
  have last : ∀ name ∈ catalog.services.items.flatMap variablesOf, ∀ other ∈ ["serv"], name ≠ other := by
    intro name member other table
    obtain rfl := List.mem_singleton.mp table
    obtain ⟨service, among, own⟩ := List.mem_flatMap.mp member
    obtain ⟨ending, -, rfl⟩ := List.mem_map.mp own
    intro same
    have nothing : capitalizeFirst service.name = "" ∧ ending = "" := by
      simpa [variableName] using congrArg String.toList same
    exact Text.capitalizeFirst_ne_empty (identifiers service among).1 nothing.1
  rw [(declaredVariables_perm catalog).nodup_iff, List.nodup_append,
    variablesOf_flatMap_nodup_iff identifiers distinct distinctSubs]
  exact ⟨And.left, fun noClash => ⟨noClash, List.nodup_singleton _, last⟩⟩

/-- The sub-function `y` of the service `a` and the service `aSubY` have the same variable. -/
theorem declaredVariables_nodup_iff_continued :
    let services : List Record.Service := [⟨"a", "", "10", "", ""⟩, ⟨"aSubY", "", "11", "", ""⟩]
    let subFunctions : List Record.SubFunction := [⟨"a", "y", "01", "", "", ""⟩]
    ∃ catalog, Catalog.build (Definition.localDefinitions services subFunctions []) = .ok catalog ∧
      VariablesClash catalog.services.items ∧ ¬ (declaredVariables (headerCode catalog)).Nodup := by
  intro services subFunctions
  -- The definitions come from files, so they conform to the schemas.
  have loaded : Definition.localPaths.load (Definition.localFiles services subFunctions []) =
      .ok (Definition.localDefinitions services subFunctions []) :=
    Definition.load_localFiles
      (by simpa [services] using ⟨⟨by decide +kernel, by decide⟩, ⟨by decide +kernel, by decide⟩⟩)
      (List.forall_mem_singleton.mpr ⟨by decide +kernel, by decide⟩) (by simp)
  obtain ⟨catalog, built, distinct, distinctSubs, shorter, member, longer, among, capital, shared, last⟩ :
      ∃ catalog, Catalog.build (Definition.localDefinitions services subFunctions []) = .ok catalog ∧
        (catalog.services.items.map (·.name)).Nodup ∧
        (∀ service ∈ catalog.services.items, (service.subFunctions.items.map (·.name)).Nodup) ∧
        ∃ shorter ∈ catalog.services.items, ∃ longer ∈ catalog.services.items,
          capitalizeFirst longer.name = capitalizeFirst shorter.name ++ "SubY" ∧
            "SubY" ∈ endings shorter ∧ "" ∈ endings longer :=
    exists_eq_ok_of_any (by decide +kernel)
  -- The shorter name continued by the ending is the longer one.
  have clash : VariablesClash catalog.services.items :=
    .continued shorter longer member among ⟨"SubY", by decide, capital, "", last, shared⟩
  obtain ⟨session, -, -, nodup_iff⟩ :=
    declaredVariables_nodup_iff rfl loaded built distinct distinctSubs .empty
  exact ⟨catalog, built, clash, fun nodup => nodup_iff.mp nodup clash⟩

/-- Two services that are told by a capital letter alone are loaded and built under distinct names, and
the variables that are printed for them have one name. -/
theorem declaredVariables_repeat :
    let services : List Record.Service := [⟨"a", "", "10", "", ""⟩, ⟨"A", "", "11", "", ""⟩]
    Definition.localPaths.schemas = .builtIn ∧
    Definition.localPaths.load (Definition.localFiles services [] []) =
      .ok (Definition.localDefinitions services [] []) ∧
    ∃ catalog, Catalog.build (Definition.localDefinitions services [] []) = .ok catalog ∧
      (catalog.services.items.map (·.name)).Nodup ∧
      (∀ service ∈ catalog.services.items, (service.subFunctions.items.map (·.name)).Nodup) ∧
      Session.fresh.addFixed .empty .builtIn headerName = (.ok (), headerSession) ∧
      headerSession.render headerName catalog = .ok (headerCode catalog).text ∧
      ¬ (declaredVariables (headerCode catalog)).Nodup := by
  intro services
  -- Both names are identifiers, and the scope tells letters of different case apart.
  have loaded : Definition.localPaths.load (Definition.localFiles services [] []) =
      .ok (Definition.localDefinitions services [] []) :=
    Definition.load_localFiles
      (by simpa [services] using ⟨⟨by decide +kernel, by decide⟩, ⟨by decide +kernel, by decide⟩⟩)
      (by simp) (by simp)
  obtain ⟨catalog, built, distinct, distinctSubs, repeated⟩ :
      ∃ catalog, Catalog.build (Definition.localDefinitions services [] []) = .ok catalog ∧
        (catalog.services.items.map (·.name)).Nodup ∧
        (∀ service ∈ catalog.services.items, (service.subFunctions.items.map (·.name)).Nodup) ∧
        ¬ (declaredVariables (headerCode catalog)).Nodup :=
    exists_eq_ok_of_any (by decide +kernel)
  exact ⟨rfl, loaded, catalog, built, distinct, distinctSubs, addFixed_header .empty,
    render_header (items_ne_nil_of_build built), repeated⟩

end UdsCatalog.Generation
