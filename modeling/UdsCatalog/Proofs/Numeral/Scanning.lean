import UdsCatalog.Proofs.Numeral.Overflow
import UdsCatalog.Proofs.Numeral.Signed

/-!
How far a text is read. Behind the marker and the sign the characters are scanned from left to right: they
are digits to their end, or lead to the bound, or break off at a character that is no digit, and what comes
first decides.
-/

namespace UdsCatalog.Numeral

variable {base bound number : Nat} {text chars digits : List Char}

/-- What is left of a text when the mark that it begins with is taken away; all of it when it begins with
none of the marks. -/
def Drops (marks : List (List Char)) (text rest : List Char) : Prop :=
  (∃ mark ∈ marks, text = mark ++ rest) ∨ (∀ mark ∈ marks, ¬ mark <+: text) ∧ rest = text

/-- Characters are digits for a number, the highest one first. -/
def AreDigits (base : Nat) (chars : List Char) (number : Nat) : Prop :=
  ∃ values, List.Forall₂ (IsDigit base) chars values ∧ number = Nat.ofDigits base values.reverse

/-- Characters begin with digits for a number that reaches the bound, whatever follows. -/
def Reaches (base bound : Nat) (chars : List Char) : Prop :=
  ∃ front number, front <+: chars ∧ AreDigits base front number ∧ bound ≤ number

/-- Characters begin with digits for a number below the bound, and the next character is no digit. -/
def BreaksOff (base bound : Nat) (chars : List Char) : Prop :=
  ∃ front number c, front ++ [c] <+: chars ∧ AreDigits base front number ∧ number < bound ∧
    ∀ value, ¬ IsDigit base c value

/-! ### Digits -/

/-- A character is looked up as no digit exactly when it is none. -/
theorem digit?_eq_none_iff {c : Char} : digit? base c = none ↔ ∀ value, ¬ IsDigit base c value := by
  simp only [Option.eq_none_iff_forall_ne_some, ne_eq, digit?_eq_some_iff]

/-- A digit is a character of ASCII. -/
theorem IsDigit.toNat_lt {c : Char} {value : Nat} (digit : IsDigit base c value) : c.toNat < 128 := by
  -- It lies in one of the three ranges of digits, none of which goes beyond the small letters.
  obtain ⟨-, found⟩ := digit
  have le_iff : ∀ a b : Char, a ≤ b ↔ a.toNat ≤ b.toNat := fun _ _ => Iff.rfl
  have nine : '9'.toNat = 57 := rfl
  have small : 'f'.toNat = 102 := rfl
  have capital : 'F'.toNat = 70 := rfl
  rw [← digitValue?_eq, digitValue?] at found
  simp only [le_iff, nine, small, capital] at found
  by_contra beyond
  rw [if_neg (by omega), if_neg (by omega), if_neg (by omega)] at found
  cases found

/-- Characters that are digits for a number are digits one by one. -/
theorem AreDigits.exists_isDigit (each : AreDigits base chars number) {c : Char} (member : c ∈ chars) :
    ∃ value, IsDigit base c value := by
  -- Each character stands beside its own value.
  obtain ⟨values, each, -⟩ := each
  induction each with
  | nil => cases member
  | cons known _ ih =>
    rcases List.mem_cons.mp member with rfl | member
    · exact ⟨_, known⟩
    · exact ih member

/-- Neither signs and letters of markers nor characters beyond ASCII are digits. -/
theorem not_isDigit_of_stray {c : Char} (stray : c ∈ ['+', '-', 'x', 'X'] ∨ 128 ≤ c.toNat) (value : Nat) :
    ¬ IsDigit base c value := by
  -- The listed characters are told one by one, and digits do not go beyond ASCII.
  intro digit
  rcases stray with listed | beyond
  · simp only [List.mem_cons, List.not_mem_nil, or_false] at listed
    rcases listed with rfl | rfl | letter
    · exact not_isDigit_plus base value digit
    · exact not_isDigit_minus base value digit
    · exact not_isDigit_marker (by simpa using letter) base value digit
  · have ascii := digit.toNat_lt
    omega

/-- Digits that reach the bound stand in front of a character that is no digit. -/
theorem Reaches.of_append_cons {front rest : List Char} {c : Char} (none : ∀ value, ¬ IsDigit base c value)
    (reaches : Reaches base bound (front ++ c :: rest)) : Reaches base bound front := by
  obtain ⟨digits, number, begins, each, large⟩ := reaches
  refine ⟨digits, number, ?_, each, large⟩
  -- If there were more of them, the character would be one.
  rcases List.prefix_or_prefix_of_prefix begins (List.prefix_append front (c :: rest)) with inside | ⟨more, rfl⟩
  · exact inside
  · cases more with
    | nil => simp
    | cons first more =>
      rw [List.prefix_append_right_inj, List.cons_prefix_cons] at begins
      obtain ⟨rfl, -⟩ := begins
      obtain ⟨value, digit⟩ := each.exists_isDigit (c := first) (by simp)
      exact absurd digit (none value)

/-! ### Scanning -/

/-- The reader does not take digits for an empty text. -/
theorem readDigits_ne_empty (base bound value : Nat) (chars : List Char) :
    readDigits base bound value chars ≠ .error .empty := by
  -- It ends with a number, with an overflow or with a digit that is none, but never so.
  induction chars generalizing value with
  | nil => simp [readDigits]
  | cons c rest ih =>
    rw [readDigits]
    split
    · simp
    · split
      · exact ih _
      · simp

/-- Digits that are read on from a number lead to the bound, or break off below it. -/
theorem readDigits_eq_invalidDigit_iff {value : Nat} (below : value < bound) :
    readDigits base bound value chars = .error .invalidDigit ↔
      ∃ front values c, front ++ [c] <+: chars ∧ List.Forall₂ (IsDigit base) front values ∧
        readOn base value values < bound ∧ ∀ other, ¬ IsDigit base c other := by
  constructor
  · -- Each digit that is passed is one of the front, and the reader stops behind the front.
    intro read
    induction chars generalizing value with
    | nil => cases read
    | cons c rest ih =>
      rw [readDigits] at read
      cases known : digit? base c with
      | none => exact ⟨[], [], c, ⟨rest, rfl⟩, .nil, below, digit?_eq_none_iff.mp known⟩
      | some digit =>
        have digits : IsDigit base c digit := digit?_eq_some_iff.mp known
        have next : value * base + digit = digit + base * value := by rw [Nat.add_comm, Nat.mul_comm]
        simp only [known, next] at read
        by_cases fits : digit + base * value < bound
        · rw [if_pos fits] at read
          obtain ⟨front, values, stop, begins, each, low, none⟩ := ih fits read
          exact ⟨c :: front, digit :: values, stop, List.cons_prefix_cons.mpr ⟨rfl, begins⟩,
            .cons digits each, low, none⟩
        · rw [if_neg fits] at read
          cases read
  · -- The digits of the front are read first, and then the character behind them is met.
    rintro ⟨front, values, c, ⟨rest, rfl⟩, each, low, none⟩
    rw [List.append_assoc, readDigits_append, readDigits_of_forall₂ each below, if_pos low]
    simp [Except.bind, readDigits, digit?_eq_none_iff.mpr none]

/-- Characters are read as a number exactly when they are digits for it and it is below the bound. -/
theorem readDigits_zero_eq_ok_iff (positive : 0 < bound) :
    readDigits base bound 0 chars = .ok number ↔ AreDigits base chars number ∧ number < bound := by
  -- The values of the digits are hidden in the one notion and open in the other.
  rw [readDigits_eq_ok_iff positive, AreDigits]
  constructor
  · rintro ⟨values, each, whole, below⟩
    exact ⟨⟨values, each, whole⟩, below⟩
  · rintro ⟨⟨values, each, whole⟩, below⟩
    exact ⟨values, each, whole, below⟩

/-- Characters are too much for the reader exactly when they reach the bound. -/
theorem readDigits_zero_eq_overflow_iff (positive : 0 < bound) :
    readDigits base bound 0 chars = .error .overflow ↔ Reaches base bound chars := by
  -- The number of the front is what has been read on from zero.
  rw [readDigits_eq_overflow_iff positive]
  constructor
  · rintro ⟨front, values, begins, each, reaches⟩
    exact ⟨front, _, begins, ⟨values, each, readOn_zero base values⟩, reaches⟩
  · rintro ⟨front, _, begins, ⟨values, each, rfl⟩, reaches⟩
    exact ⟨front, values, begins, each, readOn_zero base values ▸ reaches⟩

/-- Characters have an invalid digit for the reader exactly when they break off below the bound. -/
theorem readDigits_zero_eq_invalidDigit_iff (positive : 0 < bound) :
    readDigits base bound 0 chars = .error .invalidDigit ↔ BreaksOff base bound chars := by
  -- As before, but the front stays below the bound and a character is named.
  rw [readDigits_eq_invalidDigit_iff positive]
  constructor
  · rintro ⟨front, values, c, begins, each, low, none⟩
    exact ⟨front, _, c, begins, ⟨values, each, readOn_zero base values⟩, low, none⟩
  · rintro ⟨front, _, c, begins, ⟨values, each, rfl⟩, low, none⟩
    exact ⟨front, values, c, begins, each, readOn_zero base values ▸ low, none⟩

/-- A digit is invalid exactly when there is no other outcome. -/
theorem eq_invalidDigit_iff {result : Except NumeralError Nat} :
    result = .error .invalidDigit ↔
      result ≠ .error .empty ∧ (∀ number, result ≠ .ok number) ∧ result ≠ .error .overflow := by
  rcases result with (_ | _ | _) | number <;> simp

/-- Characters break off at one that is no digit, or before it, unless they reach the bound before it. -/
theorem breaksOff_of_not_reaches {front : List Char} {c : Char} (positive : 0 < bound)
    (none : ∀ value, ¬ IsDigit base c value) (low : ¬ Reaches base bound front) (rest : List Char) :
    BreaksOff base bound (front ++ c :: rest) := by
  -- The reader can neither take the whole text nor overflow, so it stops at some character.
  rw [← readDigits_zero_eq_invalidDigit_iff positive, eq_invalidDigit_iff]
  refine ⟨readDigits_ne_empty _ _ _ _, fun number read => ?_, fun read => ?_⟩
  · obtain ⟨each, -⟩ := (readDigits_zero_eq_ok_iff positive).mp read
    obtain ⟨value, digit⟩ := each.exists_isDigit (c := c) (by simp)
    exact none value digit
  · exact low (((readDigits_zero_eq_overflow_iff positive).mp read).of_append_cons none)

/-! ### Marks -/

/-- What a plus sign is dropped from begins with it or is left as it is. -/
theorem drops_sign_iff :
    Drops [['+']] text digits ↔ text = '+' :: digits ∨ text.head? ≠ some '+' ∧ digits = text := by
  have begins : ['+'] <+: text ↔ text.head? = some '+' := by cases text <;> simp [List.cons_prefix_cons, eq_comm]
  simp [Drops, begins]

/-- From every text a plus sign can be dropped. -/
theorem exists_drops_sign (text : List Char) : ∃ digits, Drops [['+']] text digits := by
  -- The first character decides.
  simp only [drops_sign_iff]
  cases text with
  | nil => exact ⟨[], .inr ⟨by simp, rfl⟩⟩
  | cons c rest =>
    by_cases sign : c = '+'
    · exact ⟨rest, .inl (by rw [sign])⟩
    · exact ⟨c :: rest, .inr ⟨by simp [sign], rfl⟩⟩

/-- The reader drops one of the two markers. -/
theorem drops_afterHexMarker (text : List Char) :
    Drops [['0', 'x'], ['0', 'X']] text (afterHexMarker text) := by
  unfold afterHexMarker
  split
  next rest => exact .inl ⟨['0', 'x'], by simp, rfl⟩
  next rest => exact .inl ⟨['0', 'X'], by simp, rfl⟩
  -- Neither marker stands in front, and so the text is left as it is.
  next small capital =>
    refine .inr ⟨?_, rfl⟩
    simp only [List.mem_cons, List.not_mem_nil, or_false, forall_eq_or_imp, forall_eq]
    constructor
    · rintro ⟨rest, rfl⟩
      exact small rest rfl
    · rintro ⟨rest, rfl⟩
      exact capital rest rfl

/-! ### Texts -/

/-- Only an empty text is read as such. -/
theorem readUnsigned_eq_empty_iff : readUnsigned base bound text = .error .empty ↔ text = [] := by
  -- In all cases but the empty one digits are read, which do not end so.
  unfold readUnsigned
  split
  next => simp
  next => simp
  next => simp [readDigits_ne_empty]
  next filled _ _ => simpa [readDigits_ne_empty] using filled

/-- Digits behind a sign, or without one, are read as they stand. -/
theorem Drops.readUnsigned_eq (drops : Drops [['+']] text digits) (some : digits ≠ []) (base bound : Nat) :
    readUnsigned base bound text = readDigits base bound 0 digits := by
  obtain ⟨first, rest, rfl⟩ := List.exists_cons_of_ne_nil some
  rcases drops_sign_iff.mp drops with rfl | ⟨unsigned, rfl⟩
  · rfl
  · exact readUnsigned_cons base bound (by simpa using unsigned) rest

/-- Without digits a text is empty or a lone sign. -/
theorem Drops.eq_of_nil (drops : Drops [['+']] text []) : text = [] ∨ text = ['+'] := by
  rcases drops_sign_iff.mp drops with rfl | ⟨-, empty⟩
  · exact .inr rfl
  · exact .inl empty.symm

/-- A text is too much for the reader exactly when the characters behind its sign reach the bound. -/
theorem Drops.readUnsigned_eq_overflow_iff (drops : Drops [['+']] text digits) (positive : 0 < bound) :
    readUnsigned base bound text = .error .overflow ↔ Reaches base bound digits := by
  by_cases nil : digits = []
  · -- No digits stand for zero, which is below the bound.
    subst nil
    rw [← readDigits_zero_eq_overflow_iff positive]
    rcases drops.eq_of_nil with rfl | rfl <;> simp [readUnsigned, readDigits]
  · rw [drops.readUnsigned_eq nil, readDigits_zero_eq_overflow_iff positive]

/-- A text has an invalid digit for the reader exactly when it is a lone sign, or the characters behind its
sign break off below the bound. -/
theorem Drops.readUnsigned_eq_invalidDigit_iff (drops : Drops [['+']] text digits) (positive : 0 < bound) :
    readUnsigned base bound text = .error .invalidDigit ↔ text = ['+'] ∨ BreaksOff base bound digits := by
  rw [← readDigits_zero_eq_invalidDigit_iff positive]
  by_cases nil : digits = []
  -- Without digits only the lone sign is an error of this kind.
  · subst nil
    rcases drops.eq_of_nil with rfl | rfl <;> simp [readUnsigned, readDigits]
  -- With digits behind it the text is more than a sign.
  · have sign : text ≠ ['+'] := by
      rintro rfl
      rcases drops_sign_iff.mp drops with same | ⟨unsigned, -⟩
      · exact nil (List.cons.inj same).2.symm
      · exact unsigned rfl
    rw [drops.readUnsigned_eq nil, or_iff_right sign]

/-! ### Scanning at a width -/

/-- What becomes of a text at a width is told by scanning it from left to right: the characters behind its
marker, which may have a sign, and of these the ones behind the sign. -/
structure IsToldByScan (bits : Nat) (text : String) (unmarked digits : List Char) : Prop where
  read : ∀ number, parseHex bits text = .ok number ↔ IsUnsigned 16 unmarked number ∧ number < 2 ^ bits
  empty : parseHex bits text = .error .empty ↔ unmarked = []
  overflow : parseHex bits text = .error .overflow ↔ Reaches 16 (2 ^ bits) digits
  invalidDigit : parseHex bits text = .error .invalidDigit ↔
    unmarked = ['+'] ∨ BreaksOff 16 (2 ^ bits) digits
  remaining : parseHex bits text = .error .invalidDigit ↔
    unmarked ≠ [] ∧ (∀ number < 2 ^ bits, ¬ IsUnsigned 16 unmarked number) ∧ ¬ Reaches 16 (2 ^ bits) digits
  stray : ∀ front c rest, digits = front ++ c :: rest → c ∈ ['+', '-', 'x', 'X'] ∨ 128 ≤ c.toNat →
    ¬ Reaches 16 (2 ^ bits) front → parseHex bits text = .error .invalidDigit

/-- What is behind the marker of a text and behind its sign tells what becomes of the text at every width. -/
theorem isToldByScan (bits : Nat) {text : String}
    (drops : Drops [['+']] (afterHexMarker text.toList) digits) :
    IsToldByScan bits text (afterHexMarker text.toList) digits := by
  have positive : 0 < 2 ^ bits := Nat.two_pow_pos bits
  -- All outcomes are those of the reader behind the marker.
  have whole : parseHex bits text = readUnsigned 16 (2 ^ bits) (afterHexMarker text.toList) := by
    rw [parseHex, Nat.pow_eq]
  have read (number : Nat) : parseHex bits text = .ok number ↔
      IsUnsigned 16 (afterHexMarker text.toList) number ∧ number < 2 ^ bits := by
    rw [whole, readUnsigned_eq_ok_iff positive]
  have empty : parseHex bits text = .error .empty ↔ afterHexMarker text.toList = [] := by
    rw [whole, readUnsigned_eq_empty_iff]
  have overflow : parseHex bits text = .error .overflow ↔ Reaches 16 (2 ^ bits) digits := by
    rw [whole, drops.readUnsigned_eq_overflow_iff positive]
  have invalidDigit : parseHex bits text = .error .invalidDigit ↔
      afterHexMarker text.toList = ['+'] ∨ BreaksOff 16 (2 ^ bits) digits := by
    rw [whole, drops.readUnsigned_eq_invalidDigit_iff positive]
  -- What is left over and what is stray follow from the other outcomes.
  exact {
    read := read
    empty := empty
    overflow := overflow
    invalidDigit := invalidDigit
    remaining := by simp only [eq_invalidDigit_iff, ne_eq, empty, read, overflow, and_comm, not_and]
    stray := by
      rintro front c rest rfl stray low
      exact invalidDigit.mpr (.inr (breaksOff_of_not_reaches positive (not_isDigit_of_stray stray) low rest)) }

/-- Of a text the marker `0x`, or else `0X`, is dropped, and of what is left a plus sign. The text is read as
a number exactly when what is left is a numeral for the number and this one fits the width, and it is empty
exactly when nothing is left. Otherwise the digits are scanned from left to right: the number is too large
exactly when a front of them reaches the width, and in all remaining cases a digit is invalid, which are a
lone sign and a character that is no digit behind digits that fit. Signs, letters of markers and characters
beyond ASCII are such characters. A numeral whose number fits the lesser of two widths is read alike at
both. -/
theorem parseHex_outcomes (text : String) :
    ∃ unmarked digits, Drops [['0', 'x'], ['0', 'X']] text.toList unmarked ∧ Drops [['+']] unmarked digits ∧
      (∀ bits, IsToldByScan bits text unmarked digits) ∧
      ∀ few many number, few ≤ many → number < 2 ^ few → IsUnsigned 16 unmarked number →
        parseHex few text = parseHex many text := by
  obtain ⟨digits, drops⟩ := exists_drops_sign (afterHexMarker text.toList)
  refine ⟨_, digits, drops_afterHexMarker text.toList, drops, fun bits => isToldByScan bits drops, ?_⟩
  intro few many number wider fits numeral
  -- At both widths the number is read.
  have wide : number < 2 ^ many := fits.trans_le (Nat.pow_le_pow_right (by decide) wider)
  rw [((isToldByScan few drops).read number).mpr ⟨numeral, fits⟩,
    ((isToldByScan many drops).read number).mpr ⟨numeral, wide⟩]

/-- A digit too many is told before a letter that is no digit, at the width that it is too many for. -/
example : parseHex 32 "0X+100000000G" = .error .overflow ∧
    parseHex 64 "0X+100000000G" = .error .invalidDigit := by decide

end UdsCatalog.Numeral
