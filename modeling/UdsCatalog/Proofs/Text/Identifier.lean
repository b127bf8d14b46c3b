import Mathlib
import UdsCatalog.Text.Letter

/-! Identifiers of code: names that begin with a letter or a low line and go on with digits as well. -/

namespace UdsCatalog.Text

/-- The classes of ASCII characters are ranges of codes. -/
theorem classes_iff (c : Char) :
    (c.isUpper = true ↔ 65 ≤ c.toNat ∧ c.toNat ≤ 90) ∧
      (c.isLower = true ↔ 97 ≤ c.toNat ∧ c.toNat ≤ 122) ∧
      (c.isDigit = true ↔ 48 ≤ c.toNat ∧ c.toNat ≤ 57) ∧ (c = '_' ↔ c.toNat = 95) := by
  -- Classes of characters are ranges of code points, and these are compared as words.
  refine ⟨?_, ?_, ?_, ?_⟩
  · simp only [Char.isUpper, decide_eq_true_eq, ge_iff_le, UInt32.le_iff_toNat_le]
    rfl
  · simp only [Char.isLower, Bool.and_eq_true, decide_eq_true_eq, ge_iff_le, UInt32.le_iff_toNat_le]
    rfl
  · simp only [Char.isDigit, Bool.and_eq_true, decide_eq_true_eq, ge_iff_le, UInt32.le_iff_toNat_le]
    rfl
  · rw [← Char.toNat_inj]
    rfl

/-- A character that may begin an identifier. -/
def beginsIdentifier (c : Char) : Bool := c.isAlpha || c == '_'

/-- A character that may stand inside an identifier. -/
def continuesIdentifier (c : Char) : Bool := c.isAlphanum || c == '_'

/-- An identifier of ASCII characters. -/
def isIdentifier (text : String) : Bool :=
  match text.toList with
  | [] => false
  | c :: rest => beginsIdentifier c && rest.all continuesIdentifier

/-- An identifier has a first character, and all others may stand inside. -/
theorem isIdentifier_iff (text : String) :
    isIdentifier text = true ↔ ∃ c rest, text.toList = c :: rest ∧ beginsIdentifier c = true ∧
      ∀ next ∈ rest, continuesIdentifier next = true := by
  rw [isIdentifier]
  cases chars : text.toList <;> simp

/-- Further characters that may stand inside keep an identifier one. -/
theorem isIdentifier_append {text more : String} (identifier : isIdentifier text = true)
    (further : ∀ c ∈ more.toList, continuesIdentifier c = true) : isIdentifier (text ++ more) = true := by
  -- The first character stays where it is, and all others are of the kind that may follow.
  obtain ⟨c, rest, chars, begins, inside⟩ := (isIdentifier_iff text).mp identifier
  refine (isIdentifier_iff _).mpr ⟨c, rest ++ more.toList, ?_, begins, ?_⟩
  · rw [String.toList_append, chars, List.cons_append]
  · intro next member
    rcases List.mem_append.mp member with before | behind
    · exact inside next before
    · exact further next behind

/-- A character that begins an identifier is one of ASCII. -/
theorem toNat_lt_of_beginsIdentifier {c : Char} (begins : beginsIdentifier c = true) :
    c.toNat < 0x80 := by
  obtain ⟨upper, lower, -, low⟩ := classes_iff c
  simp only [beginsIdentifier, Char.isAlpha, Bool.or_eq_true, beq_iff_eq, upper, lower, low] at begins
  omega

/-- Capitalizing an identifier changes its first character alone. -/
theorem toList_capitalizeFirst {text : String} (identifier : isIdentifier text = true) :
    ∃ c rest, text.toList = c :: rest ∧ (capitalizeFirst text).toList = c.toUpper :: rest := by
  obtain ⟨c, rest, chars, begins, -⟩ := (isIdentifier_iff text).mp identifier
  have small : c.toNat < 0x80 := toNat_lt_of_beginsIdentifier begins
  refine ⟨c, rest, chars, ?_⟩
  rw [capitalizeFirst, chars]
  simp [capitalForm, small]

/-- A capitalized identifier is not empty. -/
theorem capitalizeFirst_ne_empty {text : String} (identifier : isIdentifier text = true) :
    capitalizeFirst text ≠ "" := by
  obtain ⟨c, rest, -, capital⟩ := toList_capitalizeFirst identifier
  intro empty
  simp [empty] at capital

/-- A capitalized identifier is an identifier. -/
theorem isIdentifier_capitalizeFirst {text : String} (identifier : isIdentifier text = true) :
    isIdentifier (capitalizeFirst text) = true := by
  obtain ⟨c, rest, chars, begins, inside⟩ := (isIdentifier_iff text).mp identifier
  obtain ⟨d, others, same, capital⟩ := toList_capitalizeFirst identifier
  obtain ⟨rfl, rfl⟩ := List.cons.inj (chars.symm.trans same)
  refine (isIdentifier_iff _).mpr ⟨c.toUpper, rest, capital, ?_, inside⟩
  -- A letter stays one, and the low line has no capital.
  simp only [beginsIdentifier, Char.isAlpha_toUpper_eq_isAlpha, Bool.or_eq_true, beq_iff_eq] at begins ⊢
  rcases begins with letter | rfl
  · exact .inl letter
  · exact .inr rfl

/-- Capitalizing twice is capitalizing once. -/
theorem capitalizeFirst_capitalizeFirst {text : String} (identifier : isIdentifier text = true) :
    capitalizeFirst (capitalizeFirst text) = capitalizeFirst text := by
  obtain ⟨c, rest, -, capital⟩ := toList_capitalizeFirst identifier
  obtain ⟨d, others, chars, again⟩ := toList_capitalizeFirst (isIdentifier_capitalizeFirst identifier)
  obtain ⟨rfl, rfl⟩ := List.cons.inj (capital.symm.trans chars)
  rw [← String.toList_inj, again, capital, Char.toUpper_toUpper_eq_toUpper]

/-- A small letter is told by its capital. -/
theorem eq_of_toUpper_eq {c d : Char} (small : c.isLower = true) (other : d.isLower = true)
    (same : c.toUpper = d.toUpper) : c = d := by
  -- The small form of the capital is the letter again.
  have back : ∀ letter : Char, letter.isLower = true → letter.toUpper.toLower = letter := by
    intro letter lower
    obtain ⟨upperCodes, lowerCodes, -, -⟩ := classes_iff letter
    have noCapital : ¬ letter.isUpper = true := by
      have code := lowerCodes.mp lower
      rw [upperCodes]
      omega
    rw [Char.toLower_toUpper_eq_toLower, Char.toLower_eq_of_not_isUpper noCapital]
  rw [← back c small, same, back d other]

/-- Two identifiers are capitalized to the same text when they are the same or one of them is the
other one capitalized. -/
theorem capitalizeFirst_eq_iff {a b : String} (first : isIdentifier a = true)
    (second : isIdentifier b = true) :
    capitalizeFirst a = capitalizeFirst b ↔ a = b ∨ b = capitalizeFirst a ∨ a = capitalizeFirst b := by
  obtain ⟨c, rest, chars, capital⟩ := toList_capitalizeFirst first
  obtain ⟨d, others, otherChars, otherCapital⟩ := toList_capitalizeFirst second
  constructor
  -- Behind the first character nothing changes, so only the case of the first ones can differ.
  · intro same
    rw [same, otherCapital] at capital
    obtain ⟨upper, rfl⟩ := List.cons.inj capital
    by_cases small : c.isLower = true
    · by_cases otherSmall : d.isLower = true
      · left
        rw [← String.toList_inj, chars, otherChars, eq_of_toUpper_eq small otherSmall upper.symm]
      · right; left
        rw [← String.toList_inj, same, otherChars, otherCapital, Char.toUpper_eq_of_not_isLower otherSmall]
    · right; right
      rw [← String.toList_inj, ← same, chars, same, otherCapital, upper, Char.toUpper_eq_of_not_isLower small]
  · rintro (rfl | rfl | rfl)
    · rfl
    · rw [capitalizeFirst_capitalizeFirst first]
    · rw [capitalizeFirst_capitalizeFirst second]

end UdsCatalog.Text
