import UdsCatalog.Proofs.Catalog.NameRegistry

/-!
Names that are given out twice. Each candidate of a scope is given its suffixes in order, and two calls
return one name exactly when some candidate goes on where another one ends, with digits that a suffix of
the shorter one begins with.
-/

namespace UdsCatalog.NameRegistry

/-- The suffixes of a candidate in a scope without names, one for each of its occurrences: first the empty
one, which the reserved candidate is not given, and then the numbers from one on. -/
def suffixesOf (candidates : List String) (candidate : String) : List String :=
  (List.range' (firstCount candidate) (candidates.count candidate)).map suffix

/-- Decimal digits that a number can begin with. -/
structure IsFrontOfNumber (digits : String) : Prop where
  ne_empty : digits ≠ ""
  isDigit : ∀ c ∈ digits.toList, c.isDigit = true
  head_ne : digits.toList.head? ≠ some '0'

/-- The suffixes of a candidate are those of the counts that it is given. -/
theorem mem_suffixesOf_iff {candidates : List String} {candidate text : String} :
    text ∈ suffixesOf candidates candidate ↔
      ∃ count, Emitted candidates candidate count ∧ suffix count = text := by
  simp only [suffixesOf, List.mem_map, List.mem_range'_1, Emitted]

/-- A candidate that is given a count occurs. -/
theorem mem_of_emitted {candidates : List String} {candidate : String} {count : Nat}
    (emitted : Emitted candidates candidate count) : candidate ∈ candidates := by
  obtain ⟨least, below⟩ := emitted
  exact List.count_pos_iff.mp (by omega)

/-- The counts of a candidate fit as many bits as the number of its occurrences. -/
theorem emitted_lt {candidates : List String} {candidate : String} {count bound : Nat}
    (few : candidates.count candidate < bound) (emitted : Emitted candidates candidate count) :
    count < bound := by
  -- Only the reserved candidate counts from one, so that its last count is the number of occurrences.
  have first : firstCount candidate ≤ 1 := by
    unfold firstCount
    split <;> omega
  obtain ⟨-, below⟩ := emitted
  omega

/-- No number above zero begins with the digit zero. -/
theorem head?_toDigits_ne {number : Nat} (positive : 0 < number) :
    (Nat.toDigits 10 number).head? ≠ some '0' := by
  -- Splitting off the last digit leaves the first one where it is, until a single digit is left.
  induction number using Nat.strongRecOn with
  | ind number ih =>
    by_cases single : number < 10
    · -- A single digit is the first one, and only that of zero is zero.
      rw [Nat.toDigits_of_lt_base single]
      have each : ∀ digit < 10, 0 < digit → some digit.digitChar ≠ some '0' := by decide
      exact each number single positive
    · have front := ih (number / 10) (by omega) (by omega)
      have some : Nat.toDigits 10 (number / 10) ≠ [] := Nat.toDigits_ne_nil
      rw [Nat.toDigits_of_base_le (by decide) (by omega), List.head?_append_of_ne_nil _ some]
      exact front

/-- Digits that a suffix begins with can begin a number. -/
theorem isFrontOfNumber_of_suffix {count : Nat} {digits rest : String} (nonempty : digits ≠ "")
    (whole : suffix count = digits ++ rest) : IsFrontOfNumber digits := by
  -- The suffix is not empty, so it is the number itself.
  have positive : 0 < count := by
    rcases Nat.eq_zero_or_pos count with rfl | positive
    · exact absurd (String.append_eq_empty_iff.mp whole.symm).1 nonempty
    · exact positive
  -- The digits are the first ones of this number, which has decimal digits only and none of them a zero
  -- in front.
  have chars : Nat.toDigits 10 count = digits.toList ++ rest.toList := by
    rw [suffix, if_neg (by omega), Nat.toString_eq_ofList_toDigits] at whole
    simpa using congrArg String.toList whole
  have some : digits.toList ≠ [] := by simpa using nonempty
  constructor
  case ne_empty => exact nonempty
  case isDigit =>
    intro c member
    have among : c ∈ Nat.toDigits 10 count := chars ▸ List.mem_append_left _ member
    exact Nat.isDigit_of_mem_toDigits (by decide) (by decide) among
  case head_ne =>
    rw [← List.head?_append_of_ne_nil _ some, ← chars]
    exact head?_toDigits_ne positive

/-- A clash lies between a candidate and another one that goes on with decimal digits, such that these
digits and a suffix of the longer one are a suffix of the shorter one. -/
theorem clash_iff (candidates : List String) :
    Clash candidates ↔ ∃ shorter ∈ candidates, ∃ digits, IsFrontOfNumber digits ∧
      shorter ++ digits ∈ candidates ∧ ∃ text ∈ suffixesOf candidates (shorter ++ digits),
        digits ++ text ∈ suffixesOf candidates shorter := by
  constructor
  · -- Both candidates occur, since each of them is given a suffix.
    rintro ⟨shorter, digits, count, rest, nonempty, short, long, whole⟩
    exact ⟨shorter, mem_of_emitted short, digits, isFrontOfNumber_of_suffix nonempty whole,
      mem_of_emitted long, suffix rest, mem_suffixesOf_iff.mpr ⟨rest, long, rfl⟩,
      mem_suffixesOf_iff.mpr ⟨count, short, whole⟩⟩
  · -- Each of the two suffixes is that of a count, and the counts clash.
    rintro ⟨shorter, -, digits, front, -, text, ofLonger, ofShorter⟩
    obtain ⟨rest, long, rfl⟩ := mem_suffixesOf_iff.mp ofLonger
    obtain ⟨count, short, whole⟩ := mem_suffixesOf_iff.mp ofShorter
    exact ⟨shorter, digits, count, rest, front.ne_empty, short, long, whole⟩

/-- A call returns its candidate with the suffix whose turn it is. -/
theorem registerAll_getElem?_eq_append {candidates : List String} {i : Nat} {candidate : String}
    (found : candidates[i]? = some candidate) :
    ∃ text, (suffixesOf candidates candidate)[(candidates.take i).count candidate]? = some text ∧
      (fresh.registerAll candidates).1[i]? = some (candidate ++ text) := by
  -- This call is an occurrence of its own, so there are fewer in front of it than in all.
  have turn : (candidates.take i).count candidate < candidates.count candidate := by
    have among := (emitted_at found).2
    omega
  refine ⟨suffix (firstCount candidate + (candidates.take i).count candidate), ?_, ?_⟩
  · simp [suffixesOf, turn]
  · rw [registerAll_getElem?, found, Option.map_some, next_fresh, numbered_eq_append]

/-- Two calls for one candidate return different names. -/
theorem getElem?_ne_of_repeat {candidates : List String} {i j : Nat} {candidate : String} (before : i < j)
    (first : candidates[i]? = some candidate) (later : candidates[j]? = some candidate) :
    (fresh.registerAll candidates).1[i]? ≠ (fresh.registerAll candidates).1[j]? := by
  intro same
  rw [registerAll_getElem?, registerAll_getElem?, first, later] at same
  simp only [Option.map_some, Option.some.injEq, next_fresh, numbered_eq_append,
    String.append_right_inj] at same
  -- One suffix would be that of two counts, but the later call has one occurrence more in front of it.
  have counts := suffix_injective same
  have more := count_take_lt_of_lt before first
  omega

/-- The names of several candidates in a scope without names. A call returns its candidate with the suffix
whose turn it is, and the numbers in suffixes fit 32 bits as long as no candidate occurs too often. Two
calls return one name exactly when some candidate goes on where another one ends, with digits that a suffix
of the shorter one begins with, such that a suffix of the longer one is what is left of it. So calls for
one candidate never do, and none do where no candidate goes on with digits where another one ends. -/
theorem exists_same_name_iff (candidates : List String) :
    let names := (fresh.registerAll candidates).1
    (names.length = candidates.length ∧
      ∀ (i : Nat) candidate, candidates[i]? = some candidate →
        ∃ text, (suffixesOf candidates candidate)[(candidates.take i).count candidate]? = some text ∧
          names[i]? = some (candidate ++ text)) ∧
    (∀ candidate, candidates.count candidate < 2 ^ 32 →
      ∀ count, Emitted candidates candidate count → count < 2 ^ 32) ∧
    ((∃ i j : Nat, i < j ∧ j < candidates.length ∧ names[i]? = names[j]?) ↔
      ∃ shorter ∈ candidates, ∃ digits, IsFrontOfNumber digits ∧ shorter ++ digits ∈ candidates ∧
        ∃ text ∈ suffixesOf candidates (shorter ++ digits), digits ++ text ∈ suffixesOf candidates shorter) ∧
    (∀ (i j : Nat) candidate, i < j → candidates[i]? = some candidate → candidates[j]? = some candidate →
      names[i]? ≠ names[j]?) ∧
    ((∀ shorter ∈ candidates, ∀ digits, IsFrontOfNumber digits → shorter ++ digits ∉ candidates) →
      names.Nodup) := by
  intro names
  have length : names.length = candidates.length := registerAll_length fresh candidates
  -- Two calls return one name where the list of names has repeats.
  have repeats : (∃ i j : Nat, i < j ∧ j < candidates.length ∧ names[i]? = names[j]?) ↔ ¬ names.Nodup := by
    rw [List.nodup_iff_getElem?_ne_getElem?, length]
    push Not
    rfl
  refine ⟨⟨length, fun _ _ found => registerAll_getElem?_eq_append found⟩, fun _ few _ => emitted_lt few,
    ?_, fun _ _ _ => getElem?_ne_of_repeat, fun apart => ?_⟩
  · rw [repeats, registerAll_nodup_iff, not_not, clash_iff]
  · -- A clash needs a candidate that goes on with digits where another one ends.
    rw [registerAll_nodup_iff, clash_iff]
    rintro ⟨shorter, member, digits, front, longer, -⟩
    exact apart shorter member digits front longer

/-- The twelfth `a` and the second `a1` have one name, although the digits `1` and `11` differ. -/
example : (fresh.registerAll (List.replicate 12 "a" ++ ["a1", "a1"])).1[11]? = some "a11" ∧
    (fresh.registerAll (List.replicate 12 "a" ++ ["a1", "a1"])).1[13]? = some "a11" := by
  decide +kernel

end UdsCatalog.NameRegistry
