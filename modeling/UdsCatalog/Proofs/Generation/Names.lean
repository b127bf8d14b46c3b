import Mathlib
import UdsCatalog.Proofs.Catalog.Fields
import UdsCatalog.Proofs.Catalog.Identifiers
import UdsCatalog.Proofs.Definition.Writing
import UdsCatalog.Proofs.Generation.Supply

/-!
Names as templates see them: each as it is and with a capital letter. For definitions that are loaded
with the built-in schemas both are identifiers of code.
-/

namespace UdsCatalog

open Text (isIdentifier capitalizeFirst)

/-- Fields that are collected from records with identifiers have identifiers as names. -/
theorem LayoutClass.isIdentifier_of_collect {table : Record.Table Record.Layout}
    {classes : List LayoutClass} (collected : collect table = .ok classes)
    (identifiers : ∀ record ∈ table.records, isIdentifier record.name = true) :
    ∀ layout ∈ classes, ∀ field ∈ layout.items, isIdentifier field.name = true := by
  -- A field takes its name from its record, and no scope numbers it.
  have same : ∀ record field, LayoutField.Describes record field →
      (isIdentifier record.name = true ↔ isIdentifier field.name = true) := by
    intro record field described
    rw [described.name]
  exact (forall_records_iff_of_collect same collected).mp identifiers

namespace Generation

/-- A view shows a name and the same name with a capital letter, and both are identifiers. -/
structure ShowsIdentifiers (name : String) (view : Json) : Prop where
  shows_name : view.get? "programmer_name" = some (.text name)
  shows_capitalized : view.get? "capitalized_name" = some (.text (capitalizeFirst name))
  isIdentifier_name : isIdentifier name = true
  isIdentifier_capitalized : isIdentifier (capitalizeFirst name) = true

/-- What a view shows of the names of a service and of its sub-functions. -/
structure ShowsServiceNames (service : Service) (view : Json) : Prop where
  own : ShowsIdentifiers service.name view
  inner : ∃ views, view.get? "sub_functions" = some (.array views) ∧
    List.Forall₂ (fun item => ShowsIdentifiers item.name) service.subFunctions.items views

/-- What a view shows of the names of the fields of a class. -/
def ShowsFieldNames (layout : LayoutClass) (view : Json) : Prop :=
  ∃ views, view.get? "items" = some (.array views) ∧
    List.Forall₂ (fun field => ShowsIdentifiers field.name) layout.items views

/-- A view that shows an identifier in both forms shows identifiers. -/
theorem showsIdentifiers_of_name {name : String} {view : Json} (identifier : isIdentifier name = true)
    (shows_ : view.get? "programmer_name" = some (.text name))
    (capitalized : view.get? "capitalized_name" = some (.text (capitalizeFirst name))) :
    ShowsIdentifiers name view :=
  ⟨shows_, capitalized, identifier, Text.isIdentifier_capitalizeFirst identifier⟩

/-- A list of views shows the names of all items when each view shows that of its own. -/
theorem forall₂_showsIdentifiers {α : Type} {name : α → String} {view : α → Json} {items : List α}
    (each : ∀ item ∈ items, ShowsIdentifiers (name item) (view item)) :
    List.Forall₂ (fun item => ShowsIdentifiers (name item)) items (items.map view) := by
  -- The views are made item by item, so each one is compared with the item it is made of.
  rw [List.forall₂_map_right_iff, List.forall₂_same]
  exact each

/-- The names of a service that has identifiers are shown as such. -/
theorem showsServiceNames_view {service : Service} (identifier : isIdentifier service.name = true)
    (identifiers : ∀ item ∈ service.subFunctions.items, isIdentifier item.name = true) :
    ShowsServiceNames service (serviceView service) := by
  -- The view of a sub-function is made like that of a service, from its own name.
  constructor
  case own => exact showsIdentifiers_of_name identifier rfl rfl
  case inner =>
    refine ⟨_, rfl, forall₂_showsIdentifiers fun item member => ?_⟩
    exact showsIdentifiers_of_name (identifiers item member) rfl rfl

/-- The names of a class whose fields have identifiers are shown as such. -/
theorem showsFieldNames_object {layout : LayoutClass}
    (identifiers : ∀ field ∈ layout.items, isIdentifier field.name = true) :
    ShowsFieldNames layout (classObject layout) := by
  refine ⟨_, rfl, forall₂_showsIdentifiers fun field member => ?_⟩
  exact showsIdentifiers_of_name (identifiers field member) rfl rfl

/-- For definitions that are loaded with the built-in schemas and built, templates are given identifiers
only: the name of every service, of every sub-function and of every field is one, and so is the same name
with a capital letter. -/
theorem context_shows_identifiers {paths : Definition.Paths} {tree : Files.Tree}
    {definitions : Definitions} {catalog : Catalog} (builtIn : paths.schemas = .builtIn)
    (loaded : paths.load tree = .ok definitions) (built : Catalog.build definitions = .ok catalog) :
    ∃ given services classes, context catalog = .ok given ∧
      given.lookup "services" = some (.array services) ∧
      List.Forall₂ ShowsServiceNames catalog.services.items services ∧
      given.lookup "req_resp_classes" = some (.array classes) ∧
      List.Forall₂ ShowsFieldNames catalog.classes classes := by
  -- Names of services and sub-functions are numbered, those of fields are taken as they are.
  have identifiers : catalog.HasIdentifiers := Catalog.hasIdentifiers_of_load builtIn loaded built
  obtain ⟨-, -, layouts⟩ := Definition.Paths.comesFromRows_of_load builtIn loaded
  have collected := (Catalog.build_eq_ok_iff.mp built).2
  have fields := LayoutClass.isIdentifier_of_collect collected layouts.isIdentifier_layout
  refine ⟨values catalog, _, _, context_eq (items_ne_nil_of_build built), rfl, ?_, rfl, ?_⟩
  · rw [List.forall₂_map_right_iff, List.forall₂_same]
    intro service member
    obtain ⟨own, ofSubs⟩ := identifiers service member
    exact showsServiceNames_view own ofSubs
  · rw [List.forall₂_map_right_iff, List.forall₂_same]
    intro layout member
    exact showsFieldNames_object (fields layout member)

/-- Names that are numbered in both scopes, begin with a low line, or are the same letter in both cases
are shown as identifiers. -/
theorem context_shows_identifiers_numbered :
    let services : List Record.Service := [⟨"_", "", "10", "", ""⟩, ⟨"_", "", "11", "", ""⟩]
    let subFunctions : List Record.SubFunction :=
      [⟨"_", "reserved", "01", "", "", ""⟩, ⟨"_", "reserved", "02", "", "", ""⟩]
    let layouts : List Record.Layout := [⟨"c d", "x", "Req", 1, "1", none⟩, ⟨"c d", "X", "Req", 2, "1", none⟩]
    ∃ catalog, Catalog.build (Definition.localDefinitions services subFunctions layouts) = .ok catalog ∧
      catalog.services.items.map (fun service =>
        (service.name, service.subFunctions.items.map (·.name))) =
          [("_", ["reserved1", "reserved2"]), ("_1", ["reserved1", "reserved2"])] ∧
      ∃ given services classes, context catalog = .ok given ∧
        given.lookup "services" = some (.array services) ∧
        List.Forall₂ ShowsServiceNames catalog.services.items services ∧
        given.lookup "req_resp_classes" = some (.array classes) ∧
        List.Forall₂ ShowsFieldNames catalog.classes classes := by
  intro services subFunctions layouts
  -- The tables are read back from files that are written in the form the schemas ask for.
  have loaded : Definition.localPaths.load (Definition.localFiles services subFunctions layouts) =
      .ok (Definition.localDefinitions services subFunctions layouts) := by
    refine Definition.load_localFiles ?_ ?_ ?_
    · simpa [services] using ⟨⟨by decide +kernel, by decide⟩, ⟨by decide +kernel, by decide⟩⟩
    · simpa [subFunctions] using ⟨⟨by decide +kernel, by decide⟩, ⟨by decide +kernel, by decide⟩⟩
    · simp only [layouts, List.forall_mem_cons, List.not_mem_nil, false_implies, implies_true, and_true]
      exact ⟨⟨by decide +kernel, by decide, by decide, by decide, by decide⟩,
        ⟨by decide +kernel, by decide, by decide, by decide, by decide⟩⟩
  obtain ⟨catalog, built, names⟩ :
      ∃ catalog, Catalog.build (Definition.localDefinitions services subFunctions layouts) =
          .ok catalog ∧
        catalog.services.items.map (fun service =>
          (service.name, service.subFunctions.items.map (·.name))) =
            [("_", ["reserved1", "reserved2"]), ("_1", ["reserved1", "reserved2"])] :=
    exists_eq_ok_of_any (by decide +kernel)
  exact ⟨catalog, built, names, context_shows_identifiers rfl loaded built⟩

end Generation

end UdsCatalog
