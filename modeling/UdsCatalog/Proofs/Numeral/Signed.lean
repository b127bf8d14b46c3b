import UdsCatalog.Proofs.Numeral.Grammar

/-! Numerals with a sign: a number of 64 bits is read exactly from the decimal numerals for it. -/

namespace UdsCatalog.Numeral

/-- A text is a numeral for a number that may be negative: one digit or more, with one plus or minus sign
in front or none. -/
inductive IsSigned (base : Nat) : List Char → Int → Prop where
  | unsigned {text : List Char} {magnitude : Nat} (numeral : IsUnsigned base text magnitude) :
    IsSigned base text magnitude
  | negative {digits : List Char} {values : List Nat} (nonempty : digits ≠ [])
    (each : List.Forall₂ (IsDigit base) digits values) :
    IsSigned base ('-' :: digits) (-(Nat.ofDigits base values.reverse : Nat))

/-- The numbers of 64 bits with a sign. -/
def FitsInt64 (number : Int) : Prop := -2 ^ 63 ≤ number ∧ number < 2 ^ 63

/-- A minus sign is no digit. -/
theorem not_isDigit_minus (base value : Nat) : ¬ IsDigit base '-' value := by
  rintro ⟨-, found⟩
  cases found

/-- A numeral without a minus sign does not begin with one. -/
theorem IsUnsigned.ne_minus {base number : Nat} {text : List Char} (numeral : IsUnsigned base text number)
    (rest : List Char) : text ≠ '-' :: rest := by
  -- In front stands a plus sign or a digit.
  rintro rfl
  obtain ⟨sign, signs, digits, values, whole, -, each, -⟩ := numeral
  rcases List.mem_pair.mp signs with rfl | rfl
  · obtain rfl : digits = '-' :: rest := whole.symm
    cases each with
    | cons known _ => exact not_isDigit_minus base _ known
  · cases whole

/-- Characters are read as a number exactly when they are digits for it and it is below the bound. -/
theorem readDigits_eq_ok_iff {base bound number : Nat} {chars : List Char} (positive : 0 < bound) :
    readDigits base bound 0 chars = .ok number ↔
      ∃ values, List.Forall₂ (IsDigit base) chars values ∧ number = Nat.ofDigits base values.reverse ∧
        number < bound := by
  constructor
  · intro read
    obtain ⟨values, each, whole⟩ := forall₂_of_readDigits read
    refine ⟨values, each, whole.trans (readOn_zero base values), ?_⟩
    -- Beyond the bound the digits would not have been read.
    by_contra beyond
    rw [readDigits_of_forall₂ each positive, ← whole, if_neg beyond] at read
    cases read
  · rintro ⟨values, each, rfl, below⟩
    rw [readDigits_of_forall₂ each positive, readOn_zero, if_pos below]

/-- What is read as a number of 64 bits is a numeral for it. -/
theorem isSigned_of_readInt64? {text : List Char} {number : Int} (read : readInt64? text = some number) :
    IsSigned 10 text number ∧ FitsInt64 number := by
  unfold readInt64? at read
  split at read
  next digits =>
    -- Behind a minus sign there are digits, and one number more fits than without it.
    split at read
    next => cases read
    next nonempty =>
      split at read
      next magnitude digitsRead =>
        obtain ⟨values, each, rfl, below⟩ := (readDigits_eq_ok_iff (by decide)).mp digitsRead
        cases read
        refine ⟨.negative (by simpa using nonempty) each, ?_⟩
        constructor <;> omega
      next => cases read
  next =>
    split at read
    -- Without a minus sign it is an unsigned numeral within the smaller bound.
    next magnitude unsignedRead =>
      obtain ⟨numeral, below⟩ := (readUnsigned_eq_ok_iff (by decide)).mp unsignedRead
      cases read
      refine ⟨.unsigned numeral, ?_⟩
      constructor <;> omega
    next => cases read

/-- A numeral for a number of 64 bits is read as this number. -/
theorem IsSigned.readInt64?_eq {text : List Char} {number : Int} (numeral : IsSigned 10 text number)
    (fits : FitsInt64 number) : readInt64? text = some number := by
  -- The bound of a negative number is greater by one, so the two forms are read apart.
  obtain ⟨least, below⟩ := fits
  cases numeral with
  | @unsigned _ magnitude numeral =>
    have fits : magnitude < 0x8000_0000_0000_0000 := by omega
    rw [readInt64?.eq_2 text numeral.ne_minus, (readUnsigned_eq_ok_iff (by decide)).mpr ⟨numeral, fits⟩]
  | @negative digits values nonempty each =>
    have fits : Nat.ofDigits 10 values.reverse < 0x8000_0000_0000_0001 := by omega
    have read := (readDigits_eq_ok_iff (by decide)).mpr ⟨values, each, rfl, fits⟩
    have some : digits.isEmpty = false := by simpa using nonempty
    simp only [readInt64?, some, read]
    rfl

/-- A number of 64 bits is read exactly from the numerals for it. -/
theorem readInt64?_eq_some_iff {text : List Char} {number : Int} :
    readInt64? text = some number ↔ IsSigned 10 text number ∧ FitsInt64 number :=
  ⟨isSigned_of_readInt64?, fun ⟨numeral, fits⟩ => numeral.readInt64?_eq fits⟩

end UdsCatalog.Numeral
