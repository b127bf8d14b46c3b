import Mathlib
import UdsCatalog.Catalog.NameRegistry

/-! Which names a scope gives out, and when two of them are the same. -/

namespace UdsCatalog.NameRegistry

/-- The count that a candidate gets when it comes next. -/
def next (registry : NameRegistry) (candidate : String) : Nat :=
  match registry.repeats.lookup candidate with
  | none => 0
  | some count => count + 1

/-- The count of a candidate's first occurrence in a scope without names. -/
def firstCount (candidate : String) : Nat := if candidate = reservedName then 1 else 0

/-- What a count adds to its candidate. -/
def suffix (count : Nat) : String := if count = 0 then "" else toString count

/-- A counted candidate is found under its name afterwards, with the count that it was given. -/
theorem lookup_tally_self (candidate : String) (repeats : List (String × Nat)) :
    (tally candidate repeats).2.lookup candidate = some (tally candidate repeats).1 := by
  -- The walk stops at the entry of the candidate, or opens one at the end.
  induction repeats with
  | nil => simp [tally]
  | cons first rest ih =>
    obtain ⟨other, count⟩ := first
    by_cases same : other = candidate
    · simp [tally, same]
    · have apart : (candidate == other) = false := by simp [Ne.symm same]
      simp [tally, same, List.lookup_cons, apart, ih]

/-- Counting one candidate leaves the counts of all others as they are. -/
theorem lookup_tally_other {candidate other : String} (apart : other ≠ candidate)
    (repeats : List (String × Nat)) :
    (tally candidate repeats).2.lookup other = repeats.lookup other := by
  -- Only the entry of the candidate is written, and another name never meets it.
  have differs : (other == candidate) = false := by simp [apart]
  induction repeats with
  | nil => simp [tally, List.lookup_cons, differs]
  | cons first rest ih =>
    obtain ⟨key, count⟩ := first
    by_cases same : key = candidate
    · simp [tally, same, List.lookup_cons, differs]
    · simp [tally, same, List.lookup_cons, ih]

/-- The count is one more than the one that is kept, or zero for a candidate that is new. -/
theorem tally_fst (candidate : String) (repeats : List (String × Nat)) :
    (tally candidate repeats).1 = next ⟨repeats⟩ candidate := by
  -- Both walk the same list and stop at the first entry of the candidate.
  induction repeats with
  | nil => simp [tally, next]
  | cons first rest ih =>
    obtain ⟨other, count⟩ := first
    by_cases same : other = candidate
    · simp [tally, next, same]
    · have apart : (candidate == other) = false := by simp [Ne.symm same]
      simpa [tally, next, same, List.lookup_cons, apart] using ih

/-- The registered name carries the next count of its candidate. -/
theorem register_fst (registry : NameRegistry) (candidate : String) :
    (registry.register candidate).1 = numbered candidate (registry.next candidate) := by
  simp [register, tally_fst]

/-- Registering a candidate moves its own count on by one. -/
theorem next_register_self (registry : NameRegistry) (candidate : String) :
    (registry.register candidate).2.next candidate = registry.next candidate + 1 := by
  -- The new entry is the count just given, which is the old `next`.
  simp [register, next, lookup_tally_self, tally_fst]

/-- Registering a candidate leaves the counts of all others alone. -/
theorem next_register_other (registry : NameRegistry) {candidate other : String}
    (apart : other ≠ candidate) :
    (registry.register candidate).2.next other = registry.next other := by
  simp [register, next, lookup_tally_other apart]

/-- In a scope without names only the reserved candidate does not start at zero. -/
theorem next_fresh (candidate : String) : fresh.next candidate = firstCount candidate := by
  -- A scope without names still holds one entry, that of the reserved name.
  by_cases same : candidate = reservedName
  · simp [next, fresh, firstCount, same]
  · have apart : (candidate == reservedName) = false := by simp [same]
    simp [next, fresh, firstCount, same, List.lookup_cons, apart]

/-- There is one name for each candidate. -/
theorem registerAll_length (registry : NameRegistry) (candidates : List String) :
    (registry.registerAll candidates).1.length = candidates.length := by
  induction candidates generalizing registry with
  | nil => rfl
  | cons candidate rest ih => simp [registerAll, ih]

/-- A name is its candidate with the number of that candidate's earlier occurrences, whatever else
was registered in between. -/
theorem registerAll_getElem? (registry : NameRegistry) (candidates : List String) (i : Nat) :
    (registry.registerAll candidates).1[i]? = candidates[i]?.map fun candidate =>
      numbered candidate (registry.next candidate + (candidates.take i).count candidate) := by
  -- The head is registered first and moves only its own count, which is the one it adds to `take`.
  induction candidates generalizing registry i with
  | nil => simp [registerAll]
  | cons head rest ih =>
    cases i with
    | zero => simp [registerAll, register_fst]
    | succ i =>
      simp only [registerAll, List.getElem?_cons_succ, ih, List.take_succ_cons]
      refine congrArg (Option.map · rest[i]?) (funext fun candidate => ?_)
      by_cases same : candidate = head
      · subst same
        rw [next_register_self, List.count_cons_self]
        congr 1
        omega
      · rw [next_register_other registry same, List.count_cons_of_ne (Ne.symm same)]

/-- Items that are appended under registered names carry the names of all their candidates. -/
theorem items_foldl_register {κ α : Type} (items : κ → List α) (names : κ → NameRegistry)
    {candidateOf : α → String} {named : α → String → α} {add : κ → α → κ}
    (appends : ∀ collection item, items (add collection item) =
      items collection ++ [named item ((names collection).register (candidateOf item)).1])
    (moves : ∀ collection item, names (add collection item) =
      ((names collection).register (candidateOf item)).2)
    (collection : κ) (added : List α) :
    items (added.foldl add collection) = items collection ++
      List.zipWith named added ((names collection).registerAll (added.map candidateOf)).1 := by
  -- The scope moves on with every item, so the collection stays quantified over.
  induction added generalizing collection with
  | nil => simp
  | cons item rest ih => simp [registerAll, ih, appends, moves]

/-- Items under new names have these names. -/
theorem map_zipWith_named {α : Type} {nameOf : α → String} {named : α → String → α}
    (takes : ∀ item name, nameOf (named item name) = name) {items : List α} {names : List String}
    (lengths : names.length = items.length) :
    (List.zipWith named items names).map nameOf = names := by
  -- Nothing of the old item is left in its name, so the names alone remain.
  rw [List.map_zipWith]
  simp only [takes]
  calc List.zipWith (fun _ name => name) items names
      = (items.zip names).map Prod.snd := by rw [List.zip, List.map_zipWith]
    _ = names := List.map_snd_zip (by omega)

/-- A count that some occurrence of a candidate is given in a scope without names. -/
def Emitted (candidates : List String) (candidate : String) (count : Nat) : Prop :=
  firstCount candidate ≤ count ∧ count < firstCount candidate + candidates.count candidate

/-- One candidate goes on where another ends, with digits that are the front of a count of the
shorter one; the rest of that count is a count of the longer one. -/
def Clash (candidates : List String) : Prop :=
  ∃ shorter digits : String, ∃ count rest : Nat, digits ≠ "" ∧
    Emitted candidates shorter count ∧ Emitted candidates (shorter ++ digits) rest ∧
    suffix count = digits ++ suffix rest

/-- A name is its candidate with what the count adds. -/
theorem numbered_eq_append (candidate : String) (count : Nat) :
    numbered candidate count = candidate ++ suffix count := by
  by_cases zero : count = 0 <;> simp [numbered, suffix, zero]

/-- Different counts add different texts. -/
theorem suffix_injective {count other : Nat} (same : suffix count = suffix other) :
    count = other := by
  -- No number is written as the empty text, so zero is apart from all others.
  have written : ∀ n : Nat, toString n ≠ "" := fun n => Nat.repr_ne_empty
  unfold suffix at same
  split at same <;> split at same
  · omega
  · exact absurd same.symm (written other)
  · exact absurd same (written count)
  · exact Nat.repr_injective same

/-- Of two texts that become the same one by what is added to them, one continues the other. -/
theorem append_eq_append_cases {a b x y : String} (same : a ++ x = b ++ y) :
    (∃ d, b = a ++ d ∧ x = d ++ y) ∨ ∃ d, a = b ++ d ∧ y = d ++ x := by
  -- One of the two fronts is a front of the other, and what it lacks is the digits.
  have chars : a.toList ++ x.toList = b.toList ++ y.toList := by
    simpa using congrArg String.toList same
  rcases List.append_eq_append_iff.mp chars with ⟨d, front, back⟩ | ⟨d, front, back⟩
  · exact Or.inl ⟨String.ofList d, by simp [← String.toList_inj, front],
      by simp [← String.toList_inj, back]⟩
  · exact Or.inr ⟨String.ofList d, by simp [← String.toList_inj, front],
      by simp [← String.toList_inj, back]⟩

/-- Every number of earlier occurrences below the total is met by some occurrence. -/
private theorem exists_occurrence {candidates : List String} {candidate : String} {earlier : Nat}
    (below : earlier < candidates.count candidate) :
    ∃ i, candidates[i]? = some candidate ∧ (candidates.take i).count candidate = earlier := by
  -- Each occurrence of the candidate at the head uses up one of the earlier ones.
  induction candidates generalizing earlier with
  | nil => simp at below
  | cons head rest ih =>
    by_cases same : head = candidate
    · subst same
      rw [List.count_cons_self] at below
      rcases earlier with _ | earlier
      · -- Without earlier occurrences it is the head itself.
        exact ⟨0, by simp⟩
      · have below : earlier < rest.count head := by omega
        obtain ⟨i, found, counted⟩ := ih below
        exact ⟨i + 1, by simpa using found, by simp [counted]⟩
    · rw [List.count_cons_of_ne same] at below
      obtain ⟨i, found, counted⟩ := ih below
      exact ⟨i + 1, by simpa using found, by simp [same, counted]⟩

/-- The occurrence at a position is counted among all of them, but not among the earlier ones. -/
private theorem count_take_lt {candidates : List String} {candidate : String} {i : Nat}
    (found : candidates[i]? = some candidate) :
    (candidates.take i).count candidate < (candidates.take (i + 1)).count candidate := by
  -- The position itself is the one occurrence that the longer front has more.
  rw [List.take_add_one, found]
  simp

/-- Later occurrences of a candidate have more of them in front. -/
theorem count_take_lt_of_lt {candidates : List String} {candidate : String} {i j : Nat} (before : i < j)
    (found : candidates[i]? = some candidate) :
    (candidates.take i).count candidate < (candidates.take j).count candidate :=
  (count_take_lt found).trans_le ((List.take_sublist_take_left (by omega)).count_le _)

/-- The count of the occurrence at a position is one that its candidate is given. -/
theorem emitted_at {candidates : List String} {candidate : String} {i : Nat}
    (found : candidates[i]? = some candidate) :
    Emitted candidates candidate (firstCount candidate + (candidates.take i).count candidate) := by
  -- The earlier occurrences and this one are together at most all of them.
  have here := count_take_lt found
  have total : (candidates.take (i + 1)).count candidate ≤ candidates.count candidate :=
    (List.take_sublist _ _).count_le _
  exact ⟨by omega, by omega⟩

/-- Two candidates at different positions get one name only if some candidates clash. -/
private theorem clash_of_same_name {candidates : List String} {i j : Nat} {a b : String}
    (before : i < j) (atI : candidates[i]? = some a) (atJ : candidates[j]? = some b)
    (same : numbered a (firstCount a + (candidates.take i).count a) =
      numbered b (firstCount b + (candidates.take j).count b)) : Clash candidates := by
  -- Names are candidates with suffixes, so one candidate continues the other.
  rw [numbered_eq_append, numbered_eq_append] at same
  -- Two occurrences of one candidate have different counts, so the candidates differ.
  have differ : a ≠ b := by
    rintro rfl
    have counts := suffix_injective ((String.append_right_inj a).mp same)
    have later := count_take_lt_of_lt before atI
    omega
  rcases append_eq_append_cases same with ⟨digits, longer, counts⟩ | ⟨digits, longer, counts⟩
  · subst longer
    exact ⟨a, digits, _, _, fun empty => differ (by simp [empty]), emitted_at atI, emitted_at atJ,
      counts⟩
  · subst longer
    exact ⟨b, digits, _, _, fun empty => differ (by simp [empty]), emitted_at atJ, emitted_at atI,
      counts⟩

/-- Every count that a candidate is given stands in some name. -/
private theorem name_of_emitted {candidates : List String} {candidate : String} {count : Nat}
    (emitted : Emitted candidates candidate count) :
    ∃ i : Nat, candidates[i]? = some candidate ∧
      (fresh.registerAll candidates).1[i]? = some (numbered candidate count) := by
  -- The count says how many occurrences stand in front of the one that is asked for.
  obtain ⟨least, below⟩ := emitted
  obtain ⟨i, found, earlier⟩ :=
    exists_occurrence (show count - firstCount candidate < candidates.count candidate by omega)
  have whole : firstCount candidate + (count - firstCount candidate) = count := by omega
  refine ⟨i, found, ?_⟩
  rw [registerAll_getElem?, found, Option.map_some, next_fresh, earlier, whole]

/-- The names of a scope are pairwise distinct exactly when its candidates do not clash. -/
theorem registerAll_nodup_iff (candidates : List String) :
    (fresh.registerAll candidates).1.Nodup ↔ ¬ Clash candidates := by
  constructor
  · -- A clash shows the same name at two positions, which differ because their candidates do.
    rintro distinct ⟨shorter, digits, count, rest, nonempty, short, long, counts⟩
    obtain ⟨i, atI, nameI⟩ := name_of_emitted short
    obtain ⟨j, atJ, nameJ⟩ := name_of_emitted long
    have same : numbered shorter count = numbered (shorter ++ digits) rest := by
      rw [numbered_eq_append, numbered_eq_append, counts, String.append_assoc]
    obtain ⟨within, -⟩ := List.getElem?_eq_some_iff.mp nameI
    have position : i = j := (List.getElem?_inj within distinct).mp (by rw [nameI, nameJ, same])
    subst position
    rw [atI, Option.some.injEq] at atJ
    exact nonempty (by simpa using congrArg String.toList atJ)
  · -- Two positions of the same name would show a clash, whatever their candidates are.
    intro free
    rw [List.nodup_iff_getElem?_ne_getElem?]
    intro i j before within same
    rw [registerAll_length] at within
    rw [registerAll_getElem?, registerAll_getElem?, List.getElem?_eq_getElem (by omega),
      List.getElem?_eq_getElem within] at same
    simp only [Option.map_some, Option.some.injEq, next_fresh] at same
    exact free (clash_of_same_name before (List.getElem?_eq_getElem (by omega))
      (List.getElem?_eq_getElem within) same)

end UdsCatalog.NameRegistry
