import Mathlib
import UdsCatalog.Proofs.Catalog.Services
import UdsCatalog.Proofs.Definition.Loading

/-!
Names of catalogs. Definitions that are loaded with the built-in schemas have identifiers as names, and
numbering them keeps them so.
-/

namespace UdsCatalog

open Text (isIdentifier)

namespace NameRegistry

/-- A count adds digits, which may stand inside an identifier. -/
theorem isIdentifier_numbered {candidate : String} (identifier : isIdentifier candidate = true)
    (count : Nat) : isIdentifier (numbered candidate count) = true := by
  -- A count that is written consists of digits, and these may stand in an identifier but in front.
  by_cases zero : count = 0
  · simpa [numbered, zero] using identifier
  · rw [numbered, if_neg (by simpa using zero)]
    refine Text.isIdentifier_append identifier ?_
    intro c member
    rw [Nat.toString_eq_ofList_toDigits, String.toList_ofList] at member
    have digit : c.isDigit = true := Nat.isDigit_of_mem_toDigits (by decide) (by decide) member
    simp [Text.continuesIdentifier, Char.isAlphanum, digit]

/-- Names for identifiers are identifiers. -/
theorem isIdentifier_registerAll {candidates : List String}
    (identifiers : ∀ candidate ∈ candidates, isIdentifier candidate = true) (registry : NameRegistry) :
    ∀ name ∈ (registry.registerAll candidates).1, isIdentifier name = true := by
  -- Each name is its candidate or a numbered one, whatever the registry has counted before.
  induction candidates generalizing registry with
  | nil => simp [registerAll]
  | cons candidate rest ih =>
    obtain ⟨first, later⟩ := List.forall_mem_cons.mp identifiers
    rw [registerAll, List.forall_mem_cons]
    refine ⟨?_, ih later _⟩
    rw [register_fst]
    exact isIdentifier_numbered first _

end NameRegistry

/-- Sub-functions that are collected from records with identifiers have identifiers as names. -/
theorem SubFunction.isIdentifier_of_collect {owner : String} {table : Record.Table Record.SubFunction}
    {collection : Collection} (collected : collect owner table = .ok collection)
    (identifiers : ∀ record ∈ table.records, isIdentifier record.name = true) :
    ∀ item ∈ collection.items, isIdentifier item.name = true := by
  intro item member
  -- The names are those that the scope gives to the candidates of the owner's records.
  have named : item.name ∈ namesOf owner table := by
    rw [← collect_names collected]
    exact List.mem_map_of_mem member
  refine NameRegistry.isIdentifier_registerAll ?_ _ _ named
  intro candidate among
  obtain ⟨record, owned, rfl⟩ := List.mem_map.mp among
  exact identifiers record (List.mem_of_mem_filter owned)

/-- Services that are collected from records with identifiers have identifiers as names. -/
theorem Service.isIdentifier_of_collect {services : Record.Table Record.Service}
    {subFunctions : Record.Table Record.SubFunction} {collection : Collection}
    (collected : collect services subFunctions = .ok collection)
    (identifiers : ∀ record ∈ services.records, isIdentifier record.name = true) :
    ∀ service ∈ collection.items, isIdentifier service.name = true := by
  -- The names of services come from one registry, which was given the names of the records.
  intro service member
  have named : service.name ∈ namesOf services := by
    rw [← collect_names collected]
    exact List.mem_map_of_mem member
  refine NameRegistry.isIdentifier_registerAll ?_ _ _ named
  intro candidate among
  obtain ⟨record, listed, rfl⟩ := List.mem_map.mp among
  exact identifiers record listed

namespace Catalog

/-- All services have identifiers as names, and so have their sub-functions. -/
def HasIdentifiers (catalog : Catalog) : Prop :=
  ∀ service ∈ catalog.services.items, isIdentifier service.name = true ∧
    ∀ item ∈ service.subFunctions.items, isIdentifier item.name = true

/-- A catalog that is built from definitions that are loaded with the built-in schemas has
identifiers as names. -/
theorem hasIdentifiers_of_load {paths : Definition.Paths} {tree : Files.Tree} {definitions : Definitions}
    {catalog : Catalog} (builtIn : paths.schemas = .builtIn) (loaded : paths.load tree = .ok definitions)
    (built : build definitions = .ok catalog) : catalog.HasIdentifiers := by
  obtain ⟨services, subFunctions, -⟩ := Definition.Paths.comesFromRows_of_load builtIn loaded
  have collected := (build_eq_ok_iff.mp built).1
  intro service member
  refine ⟨Service.isIdentifier_of_collect collected
    services.isIdentifier_service service member, ?_⟩
  -- Each service collected its sub-functions from the table of the definitions.
  obtain ⟨record, -, described⟩ := exists_of_forall₂ (Service.collect_describes collected) member
  exact SubFunction.isIdentifier_of_collect described.subFunctions subFunctions.isIdentifier_subFunction

end Catalog

end UdsCatalog
