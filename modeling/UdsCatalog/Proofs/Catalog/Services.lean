import UdsCatalog.Catalog.Basic
import UdsCatalog.Proofs.Catalog.NameRegistry
import UdsCatalog.Proofs.Catalog.Reading

/-!
Services and their sub-functions are the records of their tables, in order, under the names of their
scopes.
-/

namespace UdsCatalog

namespace SubFunction

/-- An item under another name. -/
def named (item : SubFunction) (name : String) : SubFunction := { item with name }

/-- The records of a table that belong to an owner, in the order of the table. -/
def ownedBy (owner : String) (table : Record.Table Record.SubFunction) : List Record.SubFunction :=
  table.records.filter (·.owner == owner)

/-- The names that a scope of its own gives to the records of an owner. -/
def namesOf (owner : String) (table : Record.Table Record.SubFunction) : List String :=
  (NameRegistry.fresh.registerAll ((ownedBy owner table).map (·.name))).1

/-- All that a sub-function takes from its record, except for its name. -/
structure Describes (record : Record.SubFunction) (item : SubFunction) : Prop where
  startText : item.startText = (bounds record.values).1
  endText : item.endText = (bounds record.values).2
  start : Numeral.parseHex 32 item.startText = .ok item.start
  stop : Numeral.parseHex 32 item.endText = .ok item.stop
  start_le : item.start ≤ item.stop
  stop_le : item.stop ≤ greatest
  displayName : item.displayName = record.shortName
  mnemonic : item.mnemonic = record.mnemonic
  detail : item.detail = Text.escapeDetail record.details

/-- A sub-function that a record describes is a range exactly when its first value is the smaller one. -/
theorem Describes.isRange_iff {record : Record.SubFunction} {item : SubFunction}
    (described : Describes record item) : item.isRange = true ↔ item.start < item.stop := by
  have ordered : item.start ≤ item.stop := described.start_le
  rw [isRange, bne_iff_ne]
  omega

/-- A record is read as the sub-function that it describes, still under its own name. -/
theorem ofRecord_eq_ok_iff {path : Files.Path} {record : Record.SubFunction} {item : SubFunction} :
    ofRecord path record = .ok item ↔ item.name = record.name ∧ Describes record item := by
  unfold ofRecord
  constructor
  · -- An item comes out only when both texts are numbers and these lie within bounds.
    intro accepted
    cases first : Numeral.parseHex 32 (bounds record.values).1 with
    | error fault => simp [first] at accepted
    | ok start =>
      cases last : Numeral.parseHex 32 (bounds record.values).2 with
      | error fault => simp [first, last] at accepted
      | ok stop =>
        by_cases outside : stop < start ∨ greatest < stop
        · simp [first, last, outside] at accepted
        · simp only [first, last, if_neg outside, Except.ok.injEq] at accepted
          subst accepted
          have ordered : start ≤ stop := by omega
          have within : stop ≤ greatest := by omega
          exact ⟨rfl, rfl, rfl, first, last, ordered, within, rfl, rfl, rfl⟩
  · -- The description fixes every field, so it is this item that comes out.
    rintro ⟨name, described⟩
    -- Its bounds are told as two facts, and the reader asks for both at once.
    have inside : ¬ (item.stop < item.start ∨ greatest < item.stop) := by
      have ordered : item.start ≤ item.stop := described.start_le
      have within : item.stop ≤ greatest := described.stop_le
      omega
    have first := described.start
    have last := described.stop
    rw [described.startText] at first
    rw [described.endText] at last
    simp only [first, last, if_neg inside]
    cases item
    simp only [Except.ok.injEq, SubFunction.mk.injEq]
    exact ⟨name.symm, described.startText.symm, described.endText.symm, trivial, trivial,
      described.displayName.symm, described.mnemonic.symm, described.detail.symm⟩

/-- A sub-function has the name of its record. -/
theorem ofRecord_name {path : Files.Path} {record : Record.SubFunction} {item : SubFunction}
    (accepted : ofRecord path record = .ok item) : item.name = record.name :=
  (ofRecord_eq_ok_iff.mp accepted).1

/-- Records are added one after the other, each as the item that it is read as. -/
theorem addAll_takesIn (path : Files.Path) :
    TakesIn (ofRecord path) (fun collection _ item => collection.add item) (addAll path) where
  nil _ := rfl
  accepted read collection rest := by simp only [addAll, read]
  rejected read collection rest := by simp only [addAll, read]

/-- The sub-functions of an owner are collected exactly when each of its records is accepted. -/
theorem exists_collect_iff (owner : String) (table : Record.Table Record.SubFunction) :
    (∃ collection, collect owner table = .ok collection) ↔
      ∀ record ∈ ownedBy owner table, ∃ item, ofRecord table.path record = .ok item := by
  simp only [collect, (addAll_takesIn table.path).eq_foldl]
  exact exists_map_mapM_eq_ok_iff

/-- The collected items are the owner's records as they are read, under the names of their scope. -/
theorem collect_items {owner : String} {table : Record.Table Record.SubFunction}
    {collection : Collection} (collected : collect owner table = .ok collection) :
    ∃ items, ReadsEach (ofRecord table.path) (ownedBy owner table) items ∧
      collection.items = List.zipWith named items (namesOf owner table) := by
  rw [collect, (addAll_takesIn table.path).eq_foldl, map_mapM_eq_ok_iff] at collected
  obtain ⟨items, each, rfl⟩ := collected
  refine ⟨items, each, ?_⟩
  -- The candidates are the names of the records, which the items take over.
  rw [namesOf, ownedBy, ← each.map_eq fun _ _ => ofRecord_name]
  exact NameRegistry.items_foldl_register Collection.items Collection.names
    (fun _ _ => rfl) (fun _ _ => rfl) .empty items

/-- The names of the collected items are those of their scope. -/
theorem collect_names {owner : String} {table : Record.Table Record.SubFunction}
    {collection : Collection} (collected : collect owner table = .ok collection) :
    collection.items.map (·.name) = namesOf owner table := by
  obtain ⟨items, each, renamed⟩ := collect_items collected
  rw [renamed]
  refine NameRegistry.map_zipWith_named (fun _ _ => rfl) ?_
  rw [namesOf, NameRegistry.registerAll_length, List.length_map, each.length_eq]

/-- Each collected item is described by the owner's record at its place. -/
theorem collect_describes {owner : String} {table : Record.Table Record.SubFunction}
    {collection : Collection} (collected : collect owner table = .ok collection) :
    List.Forall₂ Describes (ownedBy owner table) collection.items := by
  obtain ⟨items, each, renamed⟩ := collect_items collected
  rw [renamed]
  refine forall₂_zipWith (fun record item name accepted => ?_) each ?_
  · -- The description does not speak of the name, so it holds under any other name.
    obtain ⟨-, described⟩ := ofRecord_eq_ok_iff.mp accepted
    exact { described with }
  · rw [namesOf, NameRegistry.registerAll_length, List.length_map, each.length_eq]

end SubFunction

namespace Service

/-- A service under another name. -/
def named (service : Service) (name : String) : Service := { service with name }

/-- The names that one scope gives to the records of a table. -/
def namesOf (table : Record.Table Record.Service) : List String :=
  (NameRegistry.fresh.registerAll (table.records.map (·.name))).1

/-- A code is read exactly when the text without blanks around it is a number below the bound. -/
theorem readCode_eq_ok_iff {path : Files.Path} {record : Record.Service} {code : Nat} :
    readCode path record = .ok code ↔
      Numeral.parseHex 64 (String.ofList (Text.trim record.hex.toList)) = .ok code ∧
        code < codeBound := by
  -- Each way to refuse gives an error of its own, and a number is only asked for its bound.
  unfold readCode
  cases parsed : Numeral.parseHex 64 (String.ofList (Text.trim record.hex.toList)) with
  | error fault => cases fault <;> simp
  | ok value =>
    by_cases within : value < codeBound
    · simp only [if_pos within, Except.ok.injEq]
      exact ⟨fun same => ⟨same, same ▸ within⟩, And.left⟩
    · simp only [if_neg within, Except.ok.injEq]
      constructor
      · intro refused
        cases refused
      · rintro ⟨rfl, below⟩
        exact absurd below within

/-- All that a service takes from its record and from the sub-functions, except for its name. -/
structure Describes (subFunctions : Record.Table Record.SubFunction) (record : Record.Service)
    (service : Service) : Prop where
  hexText : service.hexText = record.hex
  code : Numeral.parseHex 64 (String.ofList (Text.trim record.hex.toList)) = .ok service.code
  code_lt : service.code < codeBound
  shortName : service.shortName = record.shortName
  defaultSession : service.defaultSession = label record.defaultSession
  nonDefaultSession : service.nonDefaultSession = label record.nonDefaultSession
  subFunctions : SubFunction.collect record.name subFunctions = .ok service.subFunctions

/-- A record is read as the service that it describes, still under its own name. -/
theorem ofRecord_eq_ok_iff {path : Files.Path} {subFunctions : Record.Table Record.SubFunction}
    {record : Record.Service} {service : Service} :
    ofRecord path subFunctions record = .ok service ↔
      service.name = record.name ∧ Describes subFunctions record service := by
  unfold ofRecord
  constructor
  · -- A service comes out only when both the code and the sub-functions are there.
    intro accepted
    cases read : readCode path record with
    | error rejection => simp [read] at accepted
    | ok code =>
      cases collected : SubFunction.collect record.name subFunctions with
      | error rejection => simp [read, collected] at accepted
      | ok collection =>
        simp only [read, collected, Except.ok.injEq] at accepted
        subst accepted
        obtain ⟨parsed, below⟩ := readCode_eq_ok_iff.mp read
        exact ⟨rfl, rfl, parsed, below, rfl, rfl, rfl, collected⟩
  · -- The description fixes every field, so it is this service that comes out.
    rintro ⟨name, described⟩
    have read : readCode path record = .ok service.code :=
      readCode_eq_ok_iff.mpr ⟨described.code, described.code_lt⟩
    simp only [read, described.subFunctions]
    cases service
    simp only [Except.ok.injEq, Service.mk.injEq]
    exact ⟨name.symm, described.hexText.symm, trivial, described.shortName.symm,
      described.defaultSession.symm, described.nonDefaultSession.symm, trivial⟩

/-- Records are added one after the other, each as the service that it is read as. -/
theorem addAll_takesIn (path : Files.Path) (subFunctions : Record.Table Record.SubFunction) :
    TakesIn (ofRecord path subFunctions) (fun collection _ service => collection.add service)
      (addAll path subFunctions) where
  nil _ := rfl
  accepted read collection rest := by simp only [addAll, read]
  rejected read collection rest := by simp only [addAll, read]

/-- A record is accepted exactly when its code is a number below the bound and all sub-functions
that name it as their owner are accepted. -/
theorem exists_ofRecord_iff {path : Files.Path} {subFunctions : Record.Table Record.SubFunction}
    {record : Record.Service} :
    (∃ service, ofRecord path subFunctions record = .ok service) ↔
      (∃ code < codeBound,
        Numeral.parseHex 64 (String.ofList (Text.trim record.hex.toList)) = .ok code) ∧
      ∀ sub ∈ SubFunction.ownedBy record.name subFunctions,
        ∃ item, SubFunction.ofRecord subFunctions.path sub = .ok item := by
  -- A description holds both, and both together make a service.
  rw [← SubFunction.exists_collect_iff]
  constructor
  · rintro ⟨service, accepted⟩
    obtain ⟨-, described⟩ := ofRecord_eq_ok_iff.mp accepted
    exact ⟨⟨service.code, described.code_lt, described.code⟩, _, described.subFunctions⟩
  · rintro ⟨⟨code, below, parsed⟩, collection, collected⟩
    unfold ofRecord
    simp [readCode_eq_ok_iff.mpr ⟨parsed, below⟩, collected]

/-- The collected services are the records as they are read, under the names of one scope. -/
theorem collect_items {services : Record.Table Record.Service}
    {subFunctions : Record.Table Record.SubFunction} {collection : Collection}
    (collected : collect services subFunctions = .ok collection) :
    ∃ items, ReadsEach (ofRecord services.path subFunctions) services.records items ∧
      collection.items = List.zipWith named items (namesOf services) := by
  rw [collect, (addAll_takesIn services.path subFunctions).eq_foldl, map_mapM_eq_ok_iff]
    at collected
  obtain ⟨items, each, rfl⟩ := collected
  refine ⟨items, each, ?_⟩
  -- The candidates are the names of the records, which the services take over.
  rw [namesOf, ← each.map_eq fun _ _ accepted => (ofRecord_eq_ok_iff.mp accepted).1]
  exact NameRegistry.items_foldl_register Collection.items Collection.names
    (fun _ _ => rfl) (fun _ _ => rfl) .empty items

/-- The names of the collected services are those of their scope. -/
theorem collect_names {services : Record.Table Record.Service}
    {subFunctions : Record.Table Record.SubFunction} {collection : Collection}
    (collected : collect services subFunctions = .ok collection) :
    collection.items.map (·.name) = namesOf services := by
  obtain ⟨items, each, renamed⟩ := collect_items collected
  rw [renamed]
  refine NameRegistry.map_zipWith_named (fun _ _ => rfl) ?_
  rw [namesOf, NameRegistry.registerAll_length, List.length_map, each.length_eq]

/-- Each collected service is described by the record at its place. -/
theorem collect_describes {services : Record.Table Record.Service}
    {subFunctions : Record.Table Record.SubFunction} {collection : Collection}
    (collected : collect services subFunctions = .ok collection) :
    List.Forall₂ (Describes subFunctions) services.records collection.items := by
  -- The items that were read are described by their records, and naming changes nothing else.
  obtain ⟨items, each, renamed⟩ := collect_items collected
  rw [renamed]
  refine forall₂_zipWith (fun record service name accepted => ?_) each ?_
  · -- The description does not speak of the name, so it holds under any other name.
    obtain ⟨-, described⟩ := ofRecord_eq_ok_iff.mp accepted
    exact { described with }
  · rw [namesOf, NameRegistry.registerAll_length, List.length_map, each.length_eq]

/-- Services are collected exactly when every code is a number below the bound and every
sub-function of a listed service is accepted. -/
theorem exists_collect_iff (services : Record.Table Record.Service)
    (subFunctions : Record.Table Record.SubFunction) :
    (∃ collection, collect services subFunctions = .ok collection) ↔
      (∀ record ∈ services.records, ∃ code < codeBound,
        Numeral.parseHex 64 (String.ofList (Text.trim record.hex.toList)) = .ok code) ∧
      ∀ sub ∈ subFunctions.records, (∃ record ∈ services.records, record.name = sub.owner) →
        ∃ item, SubFunction.ofRecord subFunctions.path sub = .ok item := by
  simp only [collect, (addAll_takesIn services.path subFunctions).eq_foldl]
  rw [exists_map_mapM_eq_ok_iff]
  simp only [exists_ofRecord_iff]
  constructor
  · -- A sub-function of a listed service is among those of the record that lists it.
    intro accepted
    refine ⟨fun record member => (accepted record member).1, ?_⟩
    rintro sub member ⟨record, listed, owner⟩
    exact (accepted record listed).2 sub
      (List.mem_filter.mpr ⟨member, by simp [owner]⟩)
  · -- The other way round the record itself is the one that lists it.
    rintro ⟨codes, subs⟩ record listed
    refine ⟨codes record listed, fun sub owned => ?_⟩
    obtain ⟨member, owner⟩ := List.mem_filter.mp owned
    exact subs sub member ⟨record, listed, (by simpa using owner : sub.owner = record.name).symm⟩

/-- Some listed service owns the record. -/
def isListed (services : Record.Table Record.Service) (sub : Record.SubFunction) : Bool :=
  services.records.any (·.name == sub.owner)

/-- The records of a listed service are among those of all listed services. -/
theorem ownedBy_filter_isListed {services : Record.Table Record.Service} {record : Record.Service}
    (listed : record ∈ services.records) (subFunctions : Record.Table Record.SubFunction) :
    SubFunction.ownedBy record.name subFunctions =
      (subFunctions.records.filter (isListed services)).filter (·.owner == record.name) := by
  -- A record that the service owns has a listed owner, so the second filter drops none of them.
  rw [SubFunction.ownedBy, List.filter_filter]
  refine List.filter_congr fun sub _ => ?_
  by_cases owner : sub.owner = record.name
  · have found : isListed services sub = true :=
      List.any_eq_true.mpr ⟨record, listed, by simp [owner]⟩
    simp [owner, found]
  · simp [owner]

/-- Only the records of listed services count, for success as well as for the error. -/
theorem collect_congr {services : Record.Table Record.Service}
    {subFunctions others : Record.Table Record.SubFunction} (path : others.path = subFunctions.path)
    (listed : others.records.filter (isListed services) =
      subFunctions.records.filter (isListed services)) :
    collect services others = collect services subFunctions := by
  -- A record is asked for nothing but its own sub-functions, which both tables list alike.
  have each : ∀ record ∈ services.records,
      ofRecord services.path others record = ofRecord services.path subFunctions record := by
    intro record member
    have owned : SubFunction.ownedBy record.name others =
        SubFunction.ownedBy record.name subFunctions := by
      rw [ownedBy_filter_isListed member, ownedBy_filter_isListed member, listed]
    have same : SubFunction.collect record.name others =
        SubFunction.collect record.name subFunctions := by
      rw [SubFunction.collect, SubFunction.collect, path]
      exact congrArg _ owned
    rw [ofRecord, ofRecord, same]
  rw [collect, collect, (addAll_takesIn services.path others).eq_foldl,
    (addAll_takesIn services.path subFunctions).eq_foldl, mapM_congr each]

/-- The sub-functions of the same name do not depend on anything but that name and the table. -/
theorem subFunctions_eq_of_name_eq {subFunctions : Record.Table Record.SubFunction}
    {record other : Record.Service} {service counterpart : Service}
    (described : Describes subFunctions record service)
    (alike : Describes subFunctions other counterpart) (same : record.name = other.name) :
    service.subFunctions = counterpart.subFunctions := by
  -- Both collect the same records, and collecting has one result.
  have collected := described.subFunctions
  rw [same, alike.subFunctions, Except.ok.injEq] at collected
  exact collected.symm

/-- Collecting services joins the two tables by the name that the service table writes: it says when
that succeeds, that other sub-functions do not matter, and what comes out. -/
theorem collect_joins_tables (services : Record.Table Record.Service)
    (subFunctions : Record.Table Record.SubFunction) :
    ((∃ collection, collect services subFunctions = .ok collection) ↔
      (∀ record ∈ services.records, ∃ code ≤ 255,
        Numeral.parseHex 64 (String.ofList (Text.trim record.hex.toList)) = .ok code) ∧
      ∀ sub ∈ subFunctions.records, (∃ record ∈ services.records, record.name = sub.owner) →
        ∃ item, SubFunction.ofRecord subFunctions.path sub = .ok item) ∧
    (∀ others : Record.Table Record.SubFunction, others.path = subFunctions.path →
      others.records.filter (isListed services) =
        subFunctions.records.filter (isListed services) →
      collect services others = collect services subFunctions) ∧
    ∀ collection, collect services subFunctions = .ok collection →
      collection.items.map (·.name) = namesOf services ∧
      List.Forall₂ (fun record service =>
        Describes subFunctions record service ∧
        ∃ items, ReadsEach (SubFunction.ofRecord subFunctions.path)
            (SubFunction.ownedBy record.name subFunctions) items ∧
          service.subFunctions.items =
            List.zipWith SubFunction.named items (SubFunction.namesOf record.name subFunctions))
        services.records collection.items ∧
      ∀ others otherCollection, collect others subFunctions = .ok otherCollection →
        ∀ pair ∈ services.records.zip collection.items,
        ∀ counterpart ∈ others.records.zip otherCollection.items,
          pair.1.name = counterpart.1.name →
          pair.2.subFunctions = counterpart.2.subFunctions := by
  refine ⟨?_, fun others => collect_congr, fun collection collected =>
    ⟨collect_names collected, ?_, ?_⟩⟩
  · -- A code below the bound is one up to 255.
    have bound : ∀ code, code < codeBound ↔ code ≤ 255 := fun code => Nat.lt_succ_iff
    simp only [exists_collect_iff, bound]
  · -- The sub-functions of a service are part of what describes it.
    exact (collect_describes collected).imp fun record service described =>
      ⟨described, SubFunction.collect_items described.subFunctions⟩
  · -- Services of the same name look into the same table for the same records.
    intro others otherCollection otherCollected pair member counterpart otherMember same
    have described := List.forall₂_zip (collect_describes collected) member
    have alike := List.forall₂_zip (collect_describes otherCollected) otherMember
    exact subFunctions_eq_of_name_eq described alike same

/-- A service that is listed twice is collected twice, and the record without a value, which no
listed service owns, does not stand in the way. -/
theorem collect_joins_tables_twice :
    let services : Record.Table Record.Service :=
      ⟨⟨"serv.json"⟩, [⟨"a", "", "10", "", ""⟩, ⟨"a", "", "0x1F", "", ""⟩]⟩
    let subFunctions : Record.Table Record.SubFunction :=
      ⟨⟨"serv_sub.json"⟩, [⟨"a", "x", "01", "", "", ""⟩, ⟨"b", "y", "", "", "", ""⟩]⟩
    ∃ collection, collect services subFunctions = .ok collection ∧
      collection.items.map (·.name) = ["a", "a1"] := by
  intro services subFunctions
  obtain ⟨exists_iff, -, described⟩ := collect_joins_tables services subFunctions
  -- Both codes are numbers, and of the two sub-functions only the first has a listed owner.
  obtain ⟨collection, collected⟩ := exists_iff.mpr ⟨by
      intro record member
      rcases List.mem_pair.mp member with rfl | rfl
      · exact ⟨0x10, by decide, rfl⟩
      · exact ⟨0x1F, by decide, rfl⟩, by
      intro sub member listed
      rcases List.mem_pair.mp member with rfl | rfl
      · exact ⟨_, rfl⟩
      · exact absurd listed (by decide)⟩
  exact ⟨collection, collected, (described collection collected).1⟩

end Service

namespace Catalog

/-- A catalog is built when its services and its classes are collected. -/
theorem build_eq_ok_iff {definitions : Definitions} {catalog : Catalog} :
    build definitions = .ok catalog ↔
      Service.collect definitions.services definitions.subFunctions = .ok catalog.services ∧
        LayoutClass.collect definitions.layouts = .ok catalog.classes := by
  -- The services are collected first; the classes do not depend on them.
  unfold build
  cases Service.collect definitions.services definitions.subFunctions with
  | error rejection => simp
  | ok services =>
    cases LayoutClass.collect definitions.layouts with
    | error rejection => simp
    | ok classes =>
      obtain ⟨builtServices, builtClasses⟩ := catalog
      simp

/-- In a catalog the names of the services are pairwise distinct exactly when their records do not
clash, and so are the names of the sub-functions of each service. -/
theorem build_names_nodup_iff {definitions : Definitions} {catalog : Catalog}
    (built : build definitions = .ok catalog) :
    ((catalog.services.items.map (·.name)).Nodup ↔
      ¬ NameRegistry.Clash (definitions.services.records.map (·.name))) ∧
    List.Forall₂ (fun record service =>
      (service.subFunctions.items.map (·.name)).Nodup ↔
        ¬ NameRegistry.Clash
          ((SubFunction.ownedBy record.name definitions.subFunctions).map (·.name)))
      definitions.services.records catalog.services.items := by
  -- Each scope begins without names, so the criterion holds of every one of them alone.
  obtain ⟨collected, -⟩ := build_eq_ok_iff.mp built
  constructor
  · rw [Service.collect_names collected]
    exact NameRegistry.registerAll_nodup_iff _
  · refine (Service.collect_describes collected).imp fun record service described => ?_
    rw [SubFunction.collect_names described.subFunctions]
    exact NameRegistry.registerAll_nodup_iff _

/-- Definitions whose tables write names that counting also makes: `a1` beside two services `a`, and
`reserved1` beside `reserved`. -/
def clashing : Definitions where
  services := ⟨⟨"serv.json"⟩,
    [⟨"a", "", "10", "", ""⟩, ⟨"a", "", "11", "", ""⟩, ⟨"a1", "", "12", "", ""⟩]⟩
  subFunctions := ⟨⟨"serv_sub.json"⟩,
    [⟨"a1", "reserved", "01", "", "", ""⟩, ⟨"a1", "reserved1", "02", "", "", ""⟩]⟩
  layouts := ⟨⟨"req_resp.json"⟩, []⟩

/-- These definitions are built, and counting makes the names that the tables write as well. -/
private theorem build_clashing : ∃ catalog, build clashing = .ok catalog ∧
    catalog.services.items.map (·.name) = ["a", "a1", "a1"] ∧
    (catalog.services.items.map fun service => service.subFunctions.items.map (·.name)) =
      [[], [], ["reserved1", "reserved1"]] := by
  -- The whole catalog is computed, since the result itself is asked for.
  have shown : (build clashing).toOption.map (fun catalog =>
      (catalog.services.items.map (·.name),
        catalog.services.items.map fun service => service.subFunctions.items.map (·.name))) =
      some (["a", "a1", "a1"], [[], [], ["reserved1", "reserved1"]]) := by decide
  cases built : build clashing with
  | error rejection => simp [built, Except.toOption] at shown
  | ok catalog =>
    rw [built] at shown
    simp only [Except.toOption, Option.map_some, Option.some.injEq, Prod.mk.injEq] at shown
    exact ⟨catalog, rfl, shown⟩

/-- The services of these definitions clash, and by the criterion their names are not distinct. -/
theorem build_names_nodup_iff_clashing : ∃ catalog, build clashing = .ok catalog ∧
    NameRegistry.Clash ["a", "a", "a1"] ∧ ¬ (catalog.services.items.map (·.name)).Nodup := by
  obtain ⟨catalog, built, -⟩ := build_clashing
  -- The second `a` has the count one, whose digit makes the name of `a1`.
  have clash : NameRegistry.Clash ["a", "a", "a1"] :=
    ⟨"a", "1", 1, 0, by decide, ⟨by decide, by decide⟩, ⟨by decide, by decide⟩, rfl⟩
  exact ⟨catalog, built, clash, fun distinct => (build_names_nodup_iff built).1.mp distinct clash⟩

/-- A catalog is built in which two services have one name, and two sub-functions of one service
too. -/
theorem build_repeats_names : ∃ catalog, build clashing = .ok catalog ∧
    ¬ (catalog.services.items.map (·.name)).Nodup ∧
    ∃ service ∈ catalog.services.items, ¬ (service.subFunctions.items.map (·.name)).Nodup := by
  obtain ⟨catalog, built, services, subFunctions⟩ := build_clashing
  refine ⟨catalog, built, by rw [services]; decide, ?_⟩
  -- The last service has two sub-functions whose numbered names meet.
  have last : ["reserved1", "reserved1"] ∈
      catalog.services.items.map fun service => service.subFunctions.items.map (·.name) := by
    rw [subFunctions]
    decide
  obtain ⟨service, member, names⟩ := List.mem_map.mp last
  exact ⟨service, member, by rw [names]; decide⟩

end Catalog

end UdsCatalog
