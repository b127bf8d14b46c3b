import Mathlib
import UdsCatalog.Numeral.Hex

/-! Literals of generated code read back as the numbers they were written from. -/

namespace UdsCatalog.Numeral

/-- Digits are read on from where the digits in front of them have led. -/
theorem readDigits_append (base bound value : Nat) (first second : List Char) :
    readDigits base bound value (first ++ second) =
      (readDigits base bound value first).bind fun middle => readDigits base bound middle second := by
  -- An error in front ends the reading on both sides, so the value stays quantified over.
  induction first generalizing value with
  | nil => rfl
  | cons c rest ih =>
    rw [List.cons_append, readDigits, readDigits]
    cases known : digit? base c with
    | none => rfl
    | some digit =>
      by_cases fits : value * base + digit < bound
      · simp only [if_pos fits]
        exact ih (value * base + digit)
      · simp only [if_neg fits]
        rfl

/-- Each digit of base sixteen reads back as its own value. -/
theorem digit?_hexDigit {value : Nat} (small : value < 16) : digit? 16 (hexDigit value) = some value := by
  -- Sixteen characters, each looked up in the three ranges of digits.
  have each : ∀ digit < 16, digit? 16 (hexDigit digit) = some digit := by decide
  exact each value small

/-- No digit of base sixteen is a sign. -/
theorem hexDigit_ne_plus {value : Nat} (small : value < 16) : hexDigit value ≠ '+' := by
  have each : ∀ digit < 16, hexDigit digit ≠ '+' := by decide
  exact each value small

/-- The digits of a number begin with a digit. -/
theorem exists_hexDigits_eq (value : Nat) :
    ∃ first < 16, ∃ rest, hexDigits value = hexDigit first :: rest := by
  -- The last digit is split off, and a number of several digits has the first one of what is left.
  induction value using hexDigits.induct with
  | case1 value small =>
    refine ⟨value, small, [], ?_⟩
    rw [hexDigits, if_pos small]
  | case2 value large ih =>
    obtain ⟨first, small, rest, digits⟩ := ih
    refine ⟨first, small, rest ++ [hexDigit (value % 16)], ?_⟩
    rw [hexDigits, if_neg large, digits, List.cons_append]

/-- The digits of a number below the bound read back as the number. -/
theorem readDigits_hexDigits {bound value : Nat} (below : value < bound) :
    readDigits 16 bound 0 (hexDigits value) = .ok value := by
  induction value using hexDigits.induct with
  | case1 value small =>
    rw [hexDigits, if_pos small]
    simp [readDigits, digit?_hexDigit small, below]
  | case2 value large ih =>
    -- The digits in front give the quotient, and the last one adds the remainder.
    have quotient : value / 16 < bound := by omega
    have last : value % 16 < 16 := Nat.mod_lt _ (by decide)
    have whole : value / 16 * 16 + value % 16 = value := by omega
    rw [hexDigits, if_neg large, readDigits_append, ih quotient]
    simp [Except.bind, readDigits, digit?_hexDigit last, whole, below]

/-- Digits that do not begin with a sign are read as they stand. -/
theorem readUnsigned_cons (base bound : Nat) {first : Char} (digit : first ≠ '+') (rest : List Char) :
    readUnsigned base bound (first :: rest) = readDigits base bound 0 (first :: rest) := by
  -- The reader looks for an empty text and for a sign first, and neither is here.
  unfold readUnsigned
  split
  next empty => cases empty
  next same => exact absurd (List.cons.inj same).1 digit
  next same => exact absurd (List.cons.inj same).1 digit
  next => rfl

/-- A literal reads back as the number that it was written from, at every width that holds the number. -/
theorem parseHex_hexLiteral {bits value : Nat} (fits : value < 2 ^ bits) :
    parseHex bits (hexLiteral value) = .ok value := by
  have positive : 0 < 2 ^ bits := by omega
  rw [parseHex, hexLiteral, Nat.pow_eq]
  by_cases small : value < 16
  · -- A single digit has a zero in front, which does not change the number.
    rw [if_pos small, String.toList_ofList, afterHexMarker, readUnsigned_cons _ _ (by decide)]
    have zero : digit? 16 '0' = some 0 := by decide
    simp [readDigits, zero, positive, digit?_hexDigit small, fits]
  · -- All other numbers are written as their digits alone.
    obtain ⟨first, digit, rest, digits⟩ := exists_hexDigits_eq value
    rw [if_neg small, String.toList_ofList, afterHexMarker, digits,
      readUnsigned_cons _ _ (hexDigit_ne_plus digit), ← digits]
    exact readDigits_hexDigits fits

end UdsCatalog.Numeral
