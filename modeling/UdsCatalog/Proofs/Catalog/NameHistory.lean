import UdsCatalog.Proofs.Catalog.Services

/-!
Names by their history. What a candidate is called depends on its own earlier occurrences alone, so that
another order of the candidates gives the same names, and collections hold their items under such names. The
counters of a catalog stay within 32 bits, unless a table has more records than these can count.
-/

namespace UdsCatalog

namespace NameRegistry

/-- The name of a candidate behind earlier ones: with its number of repeats, or as it stands when there are
none. The reserved candidate counts as one that was there before. -/
def nameBehind (earlier : List String) (candidate : String) : String :=
  let repeats := earlier.count candidate + if candidate = "reserved" then 1 else 0
  if repeats = 0 then candidate else candidate ++ toString repeats

/-- The count of an occurrence is written as its number of repeats. -/
theorem numbered_eq_nameBehind (earlier : List String) (candidate : String) :
    numbered candidate (fresh.next candidate + earlier.count candidate) = nameBehind earlier candidate := by
  rw [next_fresh, Nat.add_comm, nameBehind, firstCount, reservedName]
  by_cases first : (earlier.count candidate + if candidate = "reserved" then 1 else 0) = 0
  · rw [numbered, if_pos (beq_iff_eq.mpr first), if_pos first]
  · rw [numbered, if_neg (mt beq_iff_eq.mp first), if_neg first]

/-- The reserved candidate is never called as it stands. -/
theorem nameBehind_reserved_ne (earlier : List String) : nameBehind earlier "reserved" ≠ "reserved" := by
  -- It is followed by a number, and no number is written as the empty text.
  simp [nameBehind]

/-- Each name is that of its candidate behind the ones in front of it. -/
theorem getElem?_registerAll_fresh (candidates : List String) (i : Nat) :
    (fresh.registerAll candidates).1[i]? = candidates[i]?.map (nameBehind (candidates.take i)) := by
  simp only [registerAll_getElem?, numbered_eq_nameBehind]

/-- Registering several candidates moves the count of each on by the number of its occurrences. -/
theorem next_registerAll (registry : NameRegistry) (candidates : List String) (candidate : String) :
    (registry.registerAll candidates).2.next candidate =
      registry.next candidate + candidates.count candidate := by
  induction candidates generalizing registry with
  | nil => rfl
  | cons head rest ih =>
    -- The head moves its own count alone.
    rw [registerAll, ih]
    by_cases same : candidate = head
    · subst same
      rw [next_register_self, List.count_cons_self]
      omega
    · rw [next_register_other registry same, List.count_cons_of_ne (Ne.symm same)]

/-- No counter that is kept for a candidate goes beyond the number of its occurrences. -/
theorem lookup_registerAll_le {candidates : List String} {candidate : String} {counter : Nat}
    (kept : (fresh.registerAll candidates).2.repeats.lookup candidate = some counter) :
    counter ≤ candidates.count candidate := by
  have counted := next_registerAll fresh candidates candidate
  have next : (fresh.registerAll candidates).2.next candidate = counter + 1 := by rw [NameRegistry.next, kept]
  -- Only the reserved candidate is counted from one.
  have first : firstCount candidate ≤ 1 := by
    unfold firstCount
    split <;> omega
  rw [next, next_fresh] at counted
  omega

/-- All counters of a scope are below a bound. -/
def CountsBelow (registry : NameRegistry) (bound : Nat) : Prop :=
  ∀ candidate counter, registry.repeats.lookup candidate = some counter → counter < bound

/-- The counters of a scope do not reach a bound that the number of its candidates does not reach. -/
theorem countsBelow_registerAll {candidates : List String} {bound : Nat} (few : candidates.length < bound) :
    (fresh.registerAll candidates).2.CountsBelow bound := fun _ _ kept =>
  ((lookup_registerAll_le kept).trans List.count_le_length).trans_lt few

/-- Scopes that count all candidates alike give the same names. -/
theorem registerAll_congr {registry other : NameRegistry}
    (same : ∀ candidate, registry.next candidate = other.next candidate) (candidates : List String) :
    (registry.registerAll candidates).1 = (other.registerAll candidates).1 := by
  refine List.ext_getElem? fun i => ?_
  simp only [registerAll_getElem?, same]

/-- The order of two different candidates does not matter to the counts behind them. -/
theorem next_register_comm (registry : NameRegistry) {first second : String} (apart : first ≠ second)
    (candidate : String) :
    ((registry.register first).2.register second).2.next candidate =
      ((registry.register second).2.register first).2.next candidate := by
  -- A registration changes the next name of its own candidate only, so three candidates are told apart.
  by_cases isFirst : candidate = first
  · subst isFirst
    rw [next_register_other _ apart, next_register_self, next_register_self, next_register_other _ apart]
  · by_cases isSecond : candidate = second
    · subst isSecond
      rw [next_register_self, next_register_other _ isFirst, next_register_other _ isFirst,
        next_register_self]
    · rw [next_register_other _ isSecond, next_register_other _ isFirst, next_register_other _ isFirst,
        next_register_other _ isSecond]

/-- Candidates in another order are given the same names in another order. -/
theorem registerAll_perm {candidates others : List String} (perm : candidates.Perm others)
    (registry : NameRegistry) :
    (registry.registerAll candidates).1.Perm (registry.registerAll others).1 := by
  induction perm generalizing registry with
  | nil => exact .nil
  | cons candidate _ ih => exact (ih _).cons _
  | swap second first rest =>
    by_cases same : first = second
    · subst same
      exact .refl _
    · -- Each of the two is counted as if the other one were not there, and so are all that follow.
      have ofSecond : ((registry.register first).2.register second).1 = (registry.register second).1 := by
        rw [register_fst, register_fst, next_register_other registry (Ne.symm same)]
      have ofFirst : ((registry.register second).2.register first).1 = (registry.register first).1 := by
        rw [register_fst, register_fst, next_register_other registry same]
      have behind := registerAll_congr (next_register_comm registry same) rest
      simp only [registerAll, ofSecond, ofFirst, behind]
      exact .swap _ _ _
  | trans _ _ first second => exact (first registry).trans (second registry)

/-- Items that are appended under registered names are those that were added, each under the name of its
candidate behind the ones in front of it. -/
theorem getElem?_items_foldl {κ α : Type} (items : κ → List α) (names : κ → NameRegistry)
    {candidateOf : α → String} {named : α → String → α} {add : κ → α → κ}
    (appends : ∀ collection item, items (add collection item) =
      items collection ++ [named item ((names collection).register (candidateOf item)).1])
    (moves : ∀ collection item, names (add collection item) =
      ((names collection).register (candidateOf item)).2)
    {empty : κ} (noItems : items empty = []) (noNames : names empty = fresh) (added : List α) (i : Nat) :
    (items (added.foldl add empty))[i]? = added[i]?.map fun item =>
      named item (nameBehind ((added.take i).map candidateOf) (candidateOf item)) := by
  rw [items_foldl_register items names appends moves, noItems, noNames, List.nil_append,
    List.getElem?_zipWith, getElem?_registerAll_fresh, List.getElem?_map, List.map_take]
  cases added[i]? <;> rfl

/-- Items that are appended under registered names leave the scope of all their candidates. -/
theorem names_foldl_register {κ α : Type} (names : κ → NameRegistry) {candidateOf : α → String}
    {add : κ → α → κ}
    (moves : ∀ collection item, names (add collection item) =
      ((names collection).register (candidateOf item)).2)
    (collection : κ) (added : List α) :
    names (added.foldl add collection) = ((names collection).registerAll (added.map candidateOf)).2 := by
  induction added generalizing collection with
  | nil => rfl
  | cons item rest ih => simp [registerAll, ih, moves]

end NameRegistry

open NameRegistry (nameBehind)

/-- Sub-functions that are added one after the other are kept in order, and only their names change. -/
theorem SubFunction.getElem?_items_foldl_add (added : List SubFunction) (i : Nat) :
    (added.foldl Collection.add .empty).items[i]? = added[i]?.map fun item =>
      item.named (nameBehind ((added.take i).map (·.name)) item.name) :=
  NameRegistry.getElem?_items_foldl Collection.items Collection.names (fun _ _ => rfl) (fun _ _ => rfl)
    rfl rfl added i

/-- Services that are added one after the other are kept in order, and only their names change. -/
theorem Service.getElem?_items_foldl_add (added : List Service) (i : Nat) :
    (added.foldl Collection.add .empty).items[i]? = added[i]?.map fun item =>
      item.named (nameBehind ((added.take i).map (·.name)) item.name) :=
  NameRegistry.getElem?_items_foldl Collection.items Collection.names (fun _ _ => rfl) (fun _ _ => rfl)
    rfl rfl added i

/-- The counters for the sub-functions of an owner stay below a bound that their table does not reach. -/
theorem SubFunction.countsBelow_collect {owner : String} {table : Record.Table Record.SubFunction}
    {collection : Collection} (collected : collect owner table = .ok collection) {bound : Nat}
    (few : table.records.length < bound) : collection.names.CountsBelow bound := by
  rw [collect, (addAll_takesIn table.path).eq_foldl, map_mapM_eq_ok_iff] at collected
  obtain ⟨items, each, rfl⟩ := collected
  rw [NameRegistry.names_foldl_register Collection.names fun _ _ => rfl]
  refine NameRegistry.countsBelow_registerAll ?_
  -- The records of one owner are not more than those of the table.
  rw [List.length_map, ← each.length_eq]
  exact (List.length_filter_le _ _).trans_lt few

/-- The counters for services stay below a bound that their table does not reach. -/
theorem Service.countsBelow_collect {services : Record.Table Record.Service}
    {subFunctions : Record.Table Record.SubFunction} {collection : Collection}
    (collected : collect services subFunctions = .ok collection) {bound : Nat}
    (few : services.records.length < bound) : collection.names.CountsBelow bound := by
  rw [collect, (addAll_takesIn services.path subFunctions).eq_foldl, map_mapM_eq_ok_iff] at collected
  obtain ⟨items, each, rfl⟩ := collected
  rw [NameRegistry.names_foldl_register Collection.names fun _ _ => rfl]
  refine NameRegistry.countsBelow_registerAll ?_
  rwa [List.length_map, ← each.length_eq]

/-- No counter of a catalog goes beyond 32 bits, as long as neither the table of services nor that of
sub-functions has that many records. -/
theorem Catalog.countsBelow_build {definitions : Definitions} {catalog : Catalog}
    (built : build definitions = .ok catalog) (services : definitions.services.records.length < 2 ^ 32)
    (subFunctions : definitions.subFunctions.records.length < 2 ^ 32) :
    catalog.services.names.CountsBelow (2 ^ 32) ∧
      ∀ service ∈ catalog.services.items, service.subFunctions.names.CountsBelow (2 ^ 32) := by
  obtain ⟨collected, -⟩ := build_eq_ok_iff.mp built
  refine ⟨Service.countsBelow_collect collected services, fun service member => ?_⟩
  -- Each service has a scope of its own for its sub-functions.
  obtain ⟨record, -, described⟩ := exists_of_forall₂ (Service.collect_describes collected) member
  exact SubFunction.countsBelow_collect described.subFunctions subFunctions

namespace NameRegistry

/-- The names of a scope without names by the history of their candidates. A candidate is called as it
stands, or with its number of repeats, whatever else was registered in between. The counters do not go beyond
32 bits as long as no candidate occurs that often, another order of the candidates gives the same names, and
the reserved candidate is never called as it stands. Collections hold the items that were added, in order,
and nothing but their names is changed. -/
theorem registerAll_by_history (candidates : List String) :
    (∀ i : Nat, (fresh.registerAll candidates).1[i]? =
      candidates[i]?.map (nameBehind (candidates.take i))) ∧
    (∀ candidate, candidates.count candidate < 2 ^ 32 →
      ∀ counter, (fresh.registerAll candidates).2.repeats.lookup candidate = some counter →
        counter < 2 ^ 32) ∧
    (∀ others, candidates.Perm others →
      (fresh.registerAll candidates).1.Perm (fresh.registerAll others).1) ∧
    (∀ i : Nat, candidates[i]? = some "reserved" →
      (fresh.registerAll candidates).1[i]? ≠ some "reserved") ∧
    (∀ (added : List SubFunction) (i : Nat), (added.foldl SubFunction.Collection.add .empty).items[i]? =
      added[i]?.map fun item =>
        { item with name := nameBehind ((added.take i).map (·.name)) item.name }) ∧
    ∀ (added : List Service) (i : Nat), (added.foldl Service.Collection.add .empty).items[i]? =
      added[i]?.map fun item =>
        { item with name := nameBehind ((added.take i).map (·.name)) item.name } := by
  -- Each part is a lemma above, read for a scope that is still empty.
  refine ⟨getElem?_registerAll_fresh candidates, ?_, ?_, ?_, ?_, ?_⟩
  · exact fun candidate few counter kept => (lookup_registerAll_le kept).trans_lt few
  · exact fun others perm => registerAll_perm perm fresh
  · intro i found
    rw [getElem?_registerAll_fresh, found, Option.map_some, Ne, Option.some.injEq]
    exact nameBehind_reserved_ne _
  · exact SubFunction.getElem?_items_foldl_add
  · exact Service.getElem?_items_foldl_add

end NameRegistry

end UdsCatalog
