import UdsCatalog.Proofs.Numeral.Grammar
import UdsCatalog.Text.Blank

/-!
One number in several spellings. Blanks around a number, its marker, a plus sign, zeros in front and the
case of its letters do not count, and what is left of two spellings tells the numbers apart.
-/

namespace UdsCatalog.Numeral

/-- The digits of a text behind one plus sign, if it has one. -/
def afterSign : List Char → List Char
  | '+' :: digits => digits
  | digits => digits

/-- What counts of the spelling of a number in base sixteen: the values of its digits, from the first one
on that is not zero. -/
def significantDigits (text : String) : List Nat :=
  ((afterSign (afterHexMarker (Text.trim text.toList))).filterMap (digit? 16)).dropWhile (· == 0)

/-- Zeros in front add nothing to a number. -/
theorem ofDigits_dropWhile (base : Nat) (digits : List Nat) :
    Nat.ofDigits base (digits.dropWhile (· == 0)).reverse = Nat.ofDigits base digits.reverse := by
  -- A zero in front is the highest digit, and stands for nothing.
  induction digits with
  | nil => rfl
  | cons digit rest ih =>
    by_cases zero : digit = 0
    · simp [zero, ih, Nat.ofDigits_append]
    · simp [zero]

/-- What stands behind the sign of a numeral is found again. -/
theorem afterSign_append {base : Nat} {sign digits : List Char} {values : List Nat}
    (signs : sign ∈ [[], ['+']]) (each : List.Forall₂ (IsDigit base) digits values) :
    afterSign (sign ++ digits) = digits := by
  -- Without a sign the first digit must not be taken for one.
  rcases List.mem_pair.mp signs with rfl | rfl
  · refine afterSign.eq_2 digits fun rest same => ?_
    subst same
    cases each with
    | cons known _ => exact not_isDigit_plus base _ known
  · rfl

/-- Digits are looked up as their values. -/
theorem filterMap_digit? {base : Nat} {digits : List Char} {values : List Nat}
    (each : List.Forall₂ (IsDigit base) digits values) : digits.filterMap (digit? base) = values := by
  induction each with
  | nil => rfl
  | cons known _ ih => rw [List.filterMap_cons_some (digit?_eq_some_iff.mpr known), ih]

/-- Digits have values below their base. -/
theorem lt_of_forall₂ {base : Nat} {digits : List Char} {values : List Nat}
    (each : List.Forall₂ (IsDigit base) digits values) : ∀ value ∈ values, value < base := by
  induction each with
  | nil => simp
  | cons known _ ih => exact List.forall_mem_cons.mpr ⟨known.1, ih⟩

/-- The digits of a number that is read are those that count of its spelling. -/
theorem digits_of_parseHex {bits number : Nat} {text : String}
    (read : parseHex bits (String.ofList (Text.trim text.toList)) = .ok number) :
    Nat.digits 16 number = (significantDigits text).reverse := by
  obtain ⟨numeral, -⟩ := parseHex_eq_ok_iff.mp read
  rw [String.toList_ofList] at numeral
  obtain ⟨marker, markers, unmarked, whole, unsigned⟩ := numeral
  have behind := unsigned.afterHexMarker_append markers
  obtain ⟨sign, signs, digits, values, rfl, -, each, rfl⟩ := unsigned
  have significant : significantDigits text = values.dropWhile (· == 0) := by
    rw [significantDigits, whole, behind, afterSign_append signs each, filterMap_digit? each]
  -- The first of the digits that count is not zero, which is what makes them those of the number.
  rw [significant, ← ofDigits_dropWhile, Nat.digits_ofDigits 16 (by decide)]
  · intro value member
    exact lt_of_forall₂ each value ((List.dropWhile_sublist _).mem (List.mem_reverse.mp member))
  · intro some
    rw [List.getLast_reverse]
    exact beq_eq_false_iff_ne.mp (List.head_dropWhile_not (· == 0) (by simpa using some))

end UdsCatalog.Numeral
