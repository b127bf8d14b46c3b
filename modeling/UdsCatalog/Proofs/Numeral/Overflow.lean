import UdsCatalog.Proofs.Numeral.Grammar

/-!
Numbers that are too large. A reader gives up where the digits that it has read so far reach its bound, and
does not look at what follows them.
-/

namespace UdsCatalog.Numeral

/-- A text begins with a numeral of base sixteen for a number that reaches the bound, whatever follows. -/
def BeginsBeyond (bound : Nat) (text : List Char) : Prop :=
  ∃ front number, front <+: text ∧ IsHexNumeral front number ∧ bound ≤ number

/-- Characters lead beyond the bound exactly when they begin with digits for a number that reaches it. -/
theorem readDigits_eq_overflow_iff {base bound value : Nat} {chars : List Char} (below : value < bound) :
    readDigits base bound value chars = .error .overflow ↔
      ∃ front values, front <+: chars ∧ List.Forall₂ (IsDigit base) front values ∧
        bound ≤ readOn base value values := by
  constructor
  · -- Each digit that is passed is one of the front, and the front ends with the digit that is too much.
    intro read
    induction chars generalizing value with
    | nil => cases read
    | cons c rest ih =>
      rw [readDigits] at read
      cases known : digit? base c with
      | none => simp [known] at read
      | some digit =>
        have digits : IsDigit base c digit := digit?_eq_some_iff.mp known
        have next : value * base + digit = digit + base * value := by rw [Nat.add_comm, Nat.mul_comm]
        simp only [known, next] at read
        by_cases fits : digit + base * value < bound
        · rw [if_pos fits] at read
          obtain ⟨front, values, begins, each, reaches⟩ := ih fits read
          exact ⟨c :: front, digit :: values, List.cons_prefix_cons.mpr ⟨rfl, begins⟩, .cons digits each,
            reaches⟩
        · have begins : [c] <+: c :: rest := ⟨rest, rfl⟩
          exact ⟨[c], [digit], begins, .cons digits .nil, Nat.not_lt.mp fits⟩
  · -- The digits of the front are read first, and what they end in decides.
    rintro ⟨front, values, ⟨rest, rfl⟩, each, reaches⟩
    rw [readDigits_append, readDigits_of_forall₂ each below, if_neg (by omega)]
    rfl

/-- Behind a numeral without a minus sign the digits are read on from its number, unless this one is
beyond the bound. -/
theorem IsUnsigned.readUnsigned_append {base bound number : Nat} {front : List Char}
    (numeral : IsUnsigned base front number) (rest : List Char) :
    readUnsigned base bound (front ++ rest) =
      (readUnsigned base bound front).bind fun value => readDigits base bound value rest := by
  obtain ⟨sign, signs, digits, values, rfl, some, each, rfl⟩ := numeral
  obtain ⟨first, others, rfl⟩ := List.exists_cons_of_ne_nil some
  -- Neither the digits alone nor those with more behind them are a lone sign.
  rcases List.mem_pair.mp signs with rfl | rfl
  · cases each with
    | cons known _ =>
      rw [List.nil_append, List.cons_append, known.readUnsigned_cons, known.readUnsigned_cons,
        ← List.cons_append, readDigits_append]
  · show readDigits base bound 0 (first :: others ++ rest) = _
    rw [readDigits_append]
    rfl

/-- Digits for a number that reaches a bound above zero are some, and so they make up a numeral. -/
theorem isUnsigned_of_reaches {base bound : Nat} {sign digits : List Char} {values : List Nat}
    (signs : sign ∈ [[], ['+']]) (each : List.Forall₂ (IsDigit base) digits values) (positive : 0 < bound)
    (reaches : bound ≤ readOn base 0 values) : IsUnsigned base (sign ++ digits) (readOn base 0 values) := by
  refine ⟨sign, signs, digits, values, rfl, ?_, each, readOn_zero base values⟩
  rintro rfl
  cases each
  have zero : readOn base 0 [] = 0 := rfl
  omega

/-- A text without a minus sign leads beyond the bound exactly when it begins with a numeral for a number
that reaches it. -/
theorem readUnsigned_eq_overflow_iff {base bound : Nat} {text : List Char} (positive : 0 < bound) :
    readUnsigned base bound text = .error .overflow ↔
      ∃ front number, front <+: text ∧ IsUnsigned base front number ∧ bound ≤ number := by
  constructor
  · -- An empty text and a lone sign are faults of their own, so there are digits that lead beyond the bound.
    intro read
    unfold readUnsigned at read
    split at read
    next => cases read
    next => cases read
    next digits _ =>
      obtain ⟨front, values, begins, each, reaches⟩ := (readDigits_eq_overflow_iff positive).mp read
      exact ⟨['+'] ++ front, _, List.cons_prefix_cons.mpr ⟨rfl, begins⟩,
        isUnsigned_of_reaches (by simp) each positive reaches, reaches⟩
    next =>
      obtain ⟨front, values, begins, each, reaches⟩ := (readDigits_eq_overflow_iff positive).mp read
      exact ⟨[] ++ front, _, begins, isUnsigned_of_reaches (by simp) each positive reaches, reaches⟩
  · rintro ⟨front, number, ⟨rest, rfl⟩, numeral, reaches⟩
    rw [numeral.readUnsigned_append, numeral.readUnsigned_eq positive, if_neg (by omega)]
    rfl

/-- What goes on behind a numeral for a number above zero does not make it begin like a marker. -/
theorem IsUnsigned.append_ne_marker {text : List Char} {number : Nat} (numeral : IsUnsigned 16 text number)
    (positive : 0 < number) (rest : List Char) {letter : Char} (letters : letter ∈ ['x', 'X'])
    (more : List Char) : text ++ rest ≠ '0' :: letter :: more := by
  intro same
  have shape := numeral.ne_marker letters
  obtain ⟨sign, signs, digits, values, rfl, nonempty, each, rfl⟩ := numeral
  rcases List.mem_pair.mp signs with rfl | rfl
  · cases each with
    | nil => exact nonempty rfl
    | cons known each =>
      obtain ⟨rfl, others⟩ := List.cons.inj same
      cases each with
      | nil =>
        -- The digit zero alone is the number zero.
        have zero : digitsInOrder.idxOf? '0'.toLower = some 0 := by decide
        obtain rfl := Option.some.inj (zero.symm.trans known.2)
        exact absurd positive (by simp)
      | cons next each =>
        obtain ⟨rfl, -⟩ := List.cons.inj others
        exact shape _ rfl
  · cases same

/-- A text leads beyond a width exactly when it begins with a numeral of base sixteen for a number that
does not fit. -/
theorem parseHex_eq_overflow_iff {bits : Nat} {text : String} :
    parseHex bits text = .error .overflow ↔ BeginsBeyond (2 ^ bits) text.toList := by
  rw [parseHex, Nat.pow_eq, readUnsigned_eq_overflow_iff (Nat.two_pow_pos bits)]
  constructor
  · -- The marker that the reader has put aside stands in front of the numeral again.
    rintro ⟨front, number, begins, numeral, reaches⟩
    obtain ⟨marker, markers, whole⟩ := exists_marker_append text.toList
    refine ⟨marker ++ front, number, ?_, ⟨marker, markers, front, rfl, numeral⟩, reaches⟩
    rw [whole]
    exact List.prefix_append_right_inj marker |>.mpr begins
  · rintro ⟨_, number, ⟨rest, whole⟩, ⟨marker, markers, unmarked, rfl, numeral⟩, reaches⟩
    -- A number beyond the bound is positive, so its numeral does not look like a marker.
    have positive : 0 < number := (Nat.two_pow_pos bits).trans_le reaches
    refine ⟨unmarked, number, ⟨rest, ?_⟩, numeral, reaches⟩
    have unmarkedRest : afterHexMarker (unmarked ++ rest) = unmarked ++ rest :=
      afterHexMarker.eq_3 _ (numeral.append_ne_marker positive rest (by simp))
        (numeral.append_ne_marker positive rest (by simp))
    rw [← whole, List.append_assoc]
    simp only [List.mem_cons, List.not_mem_nil, or_false] at markers
    rcases markers with rfl | rfl | rfl
    · exact unmarkedRest.symm
    · rfl
    · rfl

/-- A numeral begins beyond a width exactly when its number does not fit. -/
theorem IsHexNumeral.beginsBeyond_iff {bits number : Nat} {text : List Char}
    (numeral : IsHexNumeral text number) : BeginsBeyond (2 ^ bits) text ↔ 2 ^ bits ≤ number := by
  -- The reader tells the number of a numeral unless this one does not fit.
  rw [← String.toList_ofList (l := text)] at numeral ⊢
  rw [← parseHex_eq_overflow_iff, numeral.parseHex_eq]
  by_cases fits : number < 2 ^ bits
  · simp [fits]
  · simp [fits, Nat.not_lt.mp fits]

/-- A text has a fault other than its length exactly when it is no numeral of base sixteen and does not
begin with one for a number that does not fit. -/
theorem exists_fault_ne_overflow_iff {bits : Nat} {text : String} :
    (∃ fault ≠ NumeralError.overflow, parseHex bits text = .error fault) ↔
      (∀ number, ¬ IsHexNumeral text.toList number) ∧ ¬ BeginsBeyond (2 ^ bits) text.toList := by
  rw [← parseHex_eq_overflow_iff]
  constructor
  · rintro ⟨fault, other, read⟩
    refine ⟨fun number numeral => ?_, fun beyond => ?_⟩
    · -- A numeral would be read, or would be too long.
      rw [numeral.parseHex_eq] at read
      split at read
      · cases read
      · exact other (Except.error.inj read).symm
    · rw [read] at beyond
      exact other (Except.error.inj beyond)
  · rintro ⟨none, fits⟩
    cases read : parseHex bits text with
    | ok number => exact absurd (parseHex_eq_ok_iff.mp read).1 (none number)
    | error fault =>
      refine ⟨fault, ?_, rfl⟩
      rintro rfl
      exact fits read

end UdsCatalog.Numeral
