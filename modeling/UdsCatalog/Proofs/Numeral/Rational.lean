import Mathlib
import UdsCatalog.Schema.Basic

/-!
The values of numbers. Numbers of documents are compared, and found to be integers, by their values,
however they are written.
-/

namespace UdsCatalog

/-- The value of a binary number. -/
def Binary64.toRat (x : Binary64) : ℚ :=
  (if x.negative then -1 else 1) * (x.mantissa * 2 ^ x.exponent)

/-- The value of a number of a document. -/
def JsonNumber.toRat : JsonNumber → ℚ
  | .int value => value
  | .float value => value.toRat

namespace Binary64

/-- The size of a number has a denominator. -/
theorem fraction_den_pos (x : Binary64) : 0 < x.fraction.2 := by
  rw [fraction]
  split
  · exact Nat.one_pos
  · exact Nat.two_pow_pos _

/-- The size of a number as a fraction has its value. -/
theorem fraction_div (x : Binary64) :
    (x.fraction.1 : ℚ) / x.fraction.2 = x.mantissa * 2 ^ x.exponent := by
  rw [fraction]
  split
  · next natural =>
    -- A natural power of two is a factor of the numerator.
    obtain ⟨power, same⟩ := Int.eq_ofNat_of_zero_le natural
    simp [same]
  · next negative =>
    -- A negative power of two is the denominator.
    obtain ⟨power, same⟩ := Int.eq_ofNat_of_zero_le (a := -x.exponent) (by omega)
    have exponent : x.exponent = -(power : ℤ) := by omega
    simp [exponent, div_eq_mul_inv]

/-- A number is an integer when its value is one. -/
theorem isIntegral_iff (x : Binary64) : x.isIntegral = true ↔ ∃ n : ℤ, x.toRat = n := by
  have positive : (x.fraction.2 : ℚ) ≠ 0 := by exact_mod_cast x.fraction_den_pos.ne'
  have size : x.isIntegral = true ↔ ∃ n : ℤ, (x.mantissa : ℚ) * 2 ^ x.exponent = n := by
    show (x.fraction.1 % x.fraction.2 == 0) = true ↔ _
    rw [beq_iff_eq, ← Nat.dvd_iff_mod_eq_zero, ← x.fraction_div]
    -- The denominator divides the numerator exactly when the quotient is an integer.
    constructor
    · rintro ⟨quotient, same⟩
      exact ⟨quotient, by rw [same]; push_cast; field_simp⟩
    · rintro ⟨n, same⟩
      rw [div_eq_iff positive] at same
      exact Int.natCast_dvd_natCast.mp ⟨n, by rw [mul_comm]; exact_mod_cast same⟩
  -- The sign of an integer can be turned around.
  rw [size, toRat]
  split
  · exact ⟨fun ⟨n, same⟩ => ⟨-n, by simp [same]⟩, fun ⟨n, same⟩ => ⟨-n, by simp [← same]⟩⟩
  · simp

end Binary64

namespace JsonNumber

/-- A number as a fraction with a sign, as numbers are compared. -/
def signedFraction : JsonNumber → ℤ × ℕ
  | .int value => (value, 1)
  | .float value => (if value.negative then -(value.fraction.1 : ℤ) else value.fraction.1, value.fraction.2)

/-- The fraction of a number has a denominator. -/
theorem signedFraction_den_pos (number : JsonNumber) : 0 < number.signedFraction.2 := by
  cases number with
  | int value => exact Nat.one_pos
  | float value => exact value.fraction_den_pos

/-- The fraction of a number has its value. -/
theorem signedFraction_div (number : JsonNumber) :
    (number.signedFraction.1 : ℚ) / number.signedFraction.2 = number.toRat := by
  cases number with
  | int value => simp [signedFraction, toRat]
  | float value =>
    rw [toRat, Binary64.toRat, ← value.fraction_div, signedFraction]
    split <;> simp [neg_div]

/-- A number is an integer when its value is one. -/
theorem isIntegral_iff (number : JsonNumber) :
    number.isIntegral = true ↔ ∃ n : ℤ, number.toRat = n := by
  cases number with
  | int value => exact iff_of_true rfl ⟨value, rfl⟩
  | float value => exact value.isIntegral_iff

end JsonNumber

/-- Numbers are compared by their values. -/
theorem Schema.compareNumbers_eq_lt_iff (a b : JsonNumber) :
    compareNumbers a b = .lt ↔ a.toRat < b.toRat := by
  have crossed : compareNumbers a b = compare (a.signedFraction.1 * b.signedFraction.2)
      (b.signedFraction.1 * a.signedFraction.2) := by
    cases a <;> cases b <;> rfl
  have left : (0 : ℚ) < a.signedFraction.2 := by exact_mod_cast a.signedFraction_den_pos
  have right : (0 : ℚ) < b.signedFraction.2 := by exact_mod_cast b.signedFraction_den_pos
  -- Fractions are compared crosswise, which is the order of their values.
  rw [crossed, compare_lt_iff_lt, ← a.signedFraction_div, ← b.signedFraction_div,
    div_lt_div_iff₀ left right]
  exact_mod_cast Iff.rfl

end UdsCatalog
