import UdsCatalog.Proofs.Numeral.Hex
import UdsCatalog.Proofs.Text.Identifier

/-!
Numerals as a grammar. A text is read as a number exactly when it is a numeral for this number and the
number fits, and a numeral for a larger number is told apart from a text that is none.
-/

namespace UdsCatalog.Numeral

/-- The digits of base sixteen, in order. -/
def digitsInOrder : List Char :=
  ['0', '1', '2', '3', '4', '5', '6', '7', '8', '9', 'a', 'b', 'c', 'd', 'e', 'f']

/-- A character is the digit for a value below the base; letters may be of either case. -/
def IsDigit (base : Nat) (c : Char) (value : Nat) : Prop :=
  value < base ∧ digitsInOrder.idxOf? c.toLower = some value

/-- A text is a numeral without a minus sign: one digit or more, with one plus sign in front or none. -/
def IsUnsigned (base : Nat) (text : List Char) (number : Nat) : Prop :=
  ∃ sign ∈ [[], ['+']], ∃ digits values, text = sign ++ digits ∧ digits ≠ [] ∧
    List.Forall₂ (IsDigit base) digits values ∧ number = Nat.ofDigits base values.reverse

/-- A text is a numeral of base sixteen, with one marker `0x` or `0X` in front or none. -/
def IsHexNumeral (text : List Char) (number : Nat) : Prop :=
  ∃ marker ∈ [[], ['0', 'x'], ['0', 'X']], ∃ unmarked, text = marker ++ unmarked ∧
    IsUnsigned 16 unmarked number

/-- The value of a digit is its place among the digits, for a letter that of its small form. -/
theorem digitValue?_eq (c : Char) : digitValue? c = digitsInOrder.idxOf? c.toLower := by
  by_cases ascii : c.toNat < 128
  · have each : ∀ code < 128, digitValue? (Char.ofNat code) =
        digitsInOrder.idxOf? (Char.ofNat code).toLower := by decide
    simpa using each c.toNat ascii
  · -- A character beyond ASCII has no other case, and is none of the digits.
    have kept : c.toLower = c := by
      refine Char.toLower_eq_of_not_isUpper fun upper => ?_
      have code := (Text.classes_iff c).1.mp upper
      omega
    have codes : ∀ digit ∈ digitsInOrder, digit.toNat < 128 := by simp [digitsInOrder]
    have none : digitsInOrder.idxOf? c = none :=
      List.idxOf?_eq_none_iff.mpr fun member => ascii (codes c member)
    have le_iff : ∀ a b : Char, a ≤ b ↔ a.toNat ≤ b.toNat := fun _ _ => Iff.rfl
    have nine : '9'.toNat = 57 := rfl
    have small : 'f'.toNat = 102 := rfl
    have capital : 'F'.toNat = 70 := rfl
    rw [kept, none, digitValue?]
    simp only [le_iff, nine, small, capital]
    rw [if_neg (by omega), if_neg (by omega), if_neg (by omega)]

/-- A digit is looked up as the value that it is the digit for. -/
theorem digit?_eq_some_iff {base : Nat} {c : Char} {value : Nat} :
    digit? base c = some value ↔ IsDigit base c value := by
  rw [digit?, IsDigit, digitValue?_eq]
  cases digitsInOrder.idxOf? c.toLower with
  | none => simp
  | some found =>
    -- A digit of a larger base is none of this one.
    by_cases below : found < base
    · simp only [below, if_true, Option.some.injEq]
      exact ⟨fun same => ⟨same ▸ below, same⟩, And.right⟩
    · simp only [below, if_false, Option.some.injEq, reduceCtorEq, false_iff, not_and]
      rintro small rfl
      exact below small

/-- A plus sign is no digit. -/
theorem not_isDigit_plus (base value : Nat) : ¬ IsDigit base '+' value := by
  rintro ⟨-, found⟩
  cases found

/-- The letter of a marker is no digit. -/
theorem not_isDigit_marker {c : Char} (letter : c ∈ ['x', 'X']) (base value : Nat) :
    ¬ IsDigit base c value := by
  rintro ⟨-, found⟩
  rcases List.mem_pair.mp letter with rfl | rfl <;> cases found

/-- The number that digits lead to when they are read on from the number in front of them. -/
def readOn (base value : Nat) (values : List Nat) : Nat :=
  values.foldl (fun value digit => digit + base * value) value

/-- Digits alone lead to the number that they stand for, the highest one first. -/
theorem readOn_zero (base : Nat) (values : List Nat) : readOn base 0 values = Nat.ofDigits base values.reverse := by
  rw [Nat.ofDigits_eq_foldr, List.foldr_reverse]
  rfl

/-- Digits of a base do not make a number smaller. -/
theorem le_readOn {base : Nat} (positive : 0 < base) (value : Nat) (values : List Nat) :
    value ≤ readOn base value values := by
  -- Each digit multiplies the number in front of it by the base and adds to it.
  induction values generalizing value with
  | nil => exact le_rfl
  | cons digit values ih =>
    calc value ≤ base * value := Nat.le_mul_of_pos_left value positive
      _ ≤ digit + base * value := Nat.le_add_left _ _
      _ ≤ readOn base value (digit :: values) := ih _

/-- Digits are read as the number that they lead to, unless this one is beyond the bound. -/
theorem readDigits_of_forall₂ {base bound value : Nat} {digits : List Char} {values : List Nat}
    (each : List.Forall₂ (IsDigit base) digits values) (below : value < bound) :
    readDigits base bound value digits =
      if readOn base value values < bound then .ok (readOn base value values) else .error .overflow := by
  -- The reader gives up at the first digit that leads beyond the bound, the numeral only ends there.
  induction each generalizing value with
  | nil =>
    have stays : readOn base value [] = value := rfl
    rw [readDigits, stays, if_pos below]
  | @cons c digit digits values known each ih =>
    have next : value * base + digit = digit + base * value := by rw [Nat.add_comm, Nat.mul_comm]
    have whole : readOn base value (digit :: values) = readOn base (digit + base * value) values := rfl
    rw [readDigits, digit?_eq_some_iff.mpr known, whole]
    simp only [next]
    by_cases fits : digit + base * value < bound
    · rw [if_pos fits]
      exact ih fits
    · -- The digits behind lead further beyond the bound.
      have beyond := le_readOn (Nat.zero_lt_of_lt known.1) (digit + base * value) values
      rw [if_neg fits, if_neg (by omega)]

/-- What is read as a number is made of digits that lead to it. -/
theorem forall₂_of_readDigits {base bound value number : Nat} {chars : List Char}
    (read : readDigits base bound value chars = .ok number) :
    ∃ values, List.Forall₂ (IsDigit base) chars values ∧ number = readOn base value values := by
  -- The reader has not given up, so each character was a digit and stayed below the bound.
  induction chars generalizing value with
  | nil => exact ⟨[], .nil, (Except.ok.inj read).symm⟩
  | cons c chars ih =>
    rw [readDigits] at read
    cases known : digit? base c with
    | none => simp [known] at read
    | some digit =>
      by_cases fits : value * base + digit < bound
      · simp only [known, if_pos fits] at read
        obtain ⟨values, each, whole⟩ := ih read
        refine ⟨digit :: values, .cons (digit?_eq_some_iff.mp known) each, ?_⟩
        rw [whole, Nat.add_comm, Nat.mul_comm]
        rfl
      · simp [known, fits] at read

/-- A text that begins with a digit has no sign, and is read as it stands. -/
theorem IsDigit.readUnsigned_cons {base value : Nat} {first : Char} (known : IsDigit base first value)
    (bound : Nat) (rest : List Char) :
    readUnsigned base bound (first :: rest) = readDigits base bound 0 (first :: rest) := by
  refine Numeral.readUnsigned_cons base bound ?_ rest
  rintro rfl
  exact not_isDigit_plus base value known

/-- A numeral without a minus sign is read as its number, unless this one is beyond the bound. -/
theorem IsUnsigned.readUnsigned_eq {base bound number : Nat} {text : List Char}
    (numeral : IsUnsigned base text number) (positive : 0 < bound) :
    readUnsigned base bound text = if number < bound then .ok number else .error .overflow := by
  obtain ⟨sign, signs, digits, values, rfl, some, each, rfl⟩ := numeral
  rw [← readOn_zero, ← readDigits_of_forall₂ each positive]
  obtain ⟨first, rest, rfl⟩ := List.exists_cons_of_ne_nil some
  rcases List.mem_pair.mp signs with rfl | rfl
  · -- Without a sign the digits are read as they stand, for none of them is a sign.
    cases each with
    | cons known _ => exact known.readUnsigned_cons bound rest
  · -- Behind a sign with a digit the digits are read.
    rfl

/-- What is read as a number is a numeral for it. -/
theorem isUnsigned_of_readUnsigned {base bound number : Nat} {text : List Char}
    (read : readUnsigned base bound text = .ok number) : IsUnsigned base text number := by
  -- Neither an empty text nor a lone sign is read, and one plus sign is put aside.
  unfold readUnsigned at read
  split at read
  next => cases read
  next => cases read
  next digits lone =>
    obtain ⟨values, each, whole⟩ := forall₂_of_readDigits read
    exact ⟨['+'], by simp, digits, values, rfl, fun empty => lone (by rw [empty]), each,
      whole.trans (readOn_zero base values)⟩
  next some _ _ =>
    obtain ⟨values, each, whole⟩ := forall₂_of_readDigits read
    exact ⟨[], by simp, text, values, rfl, some, each, whole.trans (readOn_zero base values)⟩

/-- A number without a minus sign is read exactly from the numerals for it, if it is below the bound. -/
theorem readUnsigned_eq_ok_iff {base bound number : Nat} {text : List Char} (positive : 0 < bound) :
    readUnsigned base bound text = .ok number ↔ IsUnsigned base text number ∧ number < bound := by
  constructor
  · -- The number of a numeral beyond the bound would not have been given.
    intro read
    have numeral := isUnsigned_of_readUnsigned read
    refine ⟨numeral, ?_⟩
    rw [numeral.readUnsigned_eq positive] at read
    by_contra beyond
    rw [if_neg beyond] at read
    cases read
  · rintro ⟨numeral, below⟩
    rw [numeral.readUnsigned_eq positive, if_pos below]

/-- A text is what stands behind its marker, with the marker in front. -/
theorem exists_marker_append (text : List Char) :
    ∃ marker ∈ [[], ['0', 'x'], ['0', 'X']], text = marker ++ afterHexMarker text := by
  unfold afterHexMarker
  split
  next rest => exact ⟨['0', 'x'], by simp, rfl⟩
  next rest => exact ⟨['0', 'X'], by simp, rfl⟩
  next => exact ⟨[], by simp, rfl⟩

/-- A numeral does not begin like a marker, since the letter of a marker is no digit. -/
theorem IsUnsigned.ne_marker {text : List Char} {number : Nat} (numeral : IsUnsigned 16 text number)
    {letter : Char} (letters : letter ∈ ['x', 'X']) (rest : List Char) : text ≠ '0' :: letter :: rest := by
  rintro rfl
  obtain ⟨sign, signs, digits, values, whole, -, each, -⟩ := numeral
  rcases List.mem_pair.mp signs with rfl | rfl
  · -- The letter would be the second digit.
    obtain rfl : digits = '0' :: letter :: rest := whole.symm
    cases each with
    | cons _ each =>
      cases each with
      | cons known _ => exact not_isDigit_marker letters 16 _ known
  · cases whole

/-- What stands behind the marker of a numeral is found again. -/
theorem IsUnsigned.afterHexMarker_append {marker unmarked : List Char} {number : Nat}
    (numeral : IsUnsigned 16 unmarked number) (markers : marker ∈ [[], ['0', 'x'], ['0', 'X']]) :
    afterHexMarker (marker ++ unmarked) = unmarked := by
  simp only [List.mem_cons, List.not_mem_nil, or_false] at markers
  rcases markers with rfl | rfl | rfl
  · exact afterHexMarker.eq_3 unmarked (numeral.ne_marker (by simp)) (numeral.ne_marker (by simp))
  · rfl
  · rfl

/-- A numeral of base sixteen is read as its number, unless this one does not fit. -/
theorem IsHexNumeral.parseHex_eq {text : String} {number : Nat} (numeral : IsHexNumeral text.toList number)
    (bits : Nat) : parseHex bits text = if number < 2 ^ bits then .ok number else .error .overflow := by
  obtain ⟨marker, markers, unmarked, whole, unsigned⟩ := numeral
  rw [parseHex, whole, unsigned.afterHexMarker_append markers, Nat.pow_eq]
  exact unsigned.readUnsigned_eq (Nat.two_pow_pos bits)

/-- A number is read exactly from the numerals of base sixteen for it, if it fits. -/
theorem parseHex_eq_ok_iff {bits number : Nat} {text : String} :
    parseHex bits text = .ok number ↔ IsHexNumeral text.toList number ∧ number < 2 ^ bits := by
  constructor
  · -- What the reader put aside is the marker of the numeral.
    intro read
    rw [parseHex, Nat.pow_eq, readUnsigned_eq_ok_iff (Nat.two_pow_pos bits)] at read
    obtain ⟨marker, markers, whole⟩ := exists_marker_append text.toList
    exact ⟨⟨marker, markers, _, whole, read.1⟩, read.2⟩
  · rintro ⟨numeral, fits⟩
    rw [numeral.parseHex_eq, if_pos fits]

/-- A text is not read exactly when it is no numeral for a number that fits. -/
theorem exists_parseHex_eq_error_iff {bits : Nat} {text : String} :
    (∃ fault, parseHex bits text = .error fault) ↔ ∀ number < 2 ^ bits, ¬ IsHexNumeral text.toList number := by
  -- A reader that gives no number gives a fault.
  have unread : (∃ fault, parseHex bits text = .error fault) ↔ ∀ number, parseHex bits text ≠ .ok number := by
    cases parseHex bits text <;> simp
  rw [unread]
  refine forall_congr' fun number => ?_
  rw [Ne, parseHex_eq_ok_iff, and_comm, not_and]

/-- A text is a numeral for one number only. -/
theorem IsHexNumeral.unique {text : List Char} {number other : Nat} (numeral : IsHexNumeral text number)
    (same : IsHexNumeral text other) : number = other := by
  -- Both are read from the text, at a width that holds them both.
  rw [← String.toList_ofList (l := text)] at numeral same
  have first := numeral.parseHex_eq (number + other)
  have second := same.parseHex_eq (number + other)
  have fits := Nat.lt_two_pow_self (n := number + other)
  rw [first, if_pos (by omega), if_pos (by omega)] at second
  exact Except.ok.inj second

end UdsCatalog.Numeral
