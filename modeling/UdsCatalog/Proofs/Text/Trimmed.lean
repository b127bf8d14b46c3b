import Mathlib
import UdsCatalog.Text.Blank

/-! Texts without the blanks around them: what is put aside, and what is left. -/

namespace UdsCatalog.Text

/-- What is left of characters without the blanks around it, which neither begins nor ends with one. -/
inductive Trims : List Char → List Char → Prop where
  | mk {front inner back : List Char} (blanks : ∀ c ∈ front ++ back, isBlank c = true)
    (first : ∀ c ∈ inner.head?, isBlank c = false) (last : ∀ c ∈ inner.getLast?, isBlank c = false) :
    Trims (front ++ (inner ++ back)) inner

/-- Blanks in front of characters that do not begin with one are all that is dropped there. -/
theorem trimLeft_append {front inner : List Char} (blanks : ∀ c ∈ front, isBlank c = true)
    (first : ∀ c ∈ inner.head?, isBlank c = false) : trimLeft (front ++ inner) = inner := by
  -- All of the front is dropped, and the first character behind it stops the dropping.
  rw [trimLeft, List.dropWhile_append_of_pos blanks]
  cases inner with
  | nil => rfl
  | cons c rest =>
    have shown : isBlank c = false := first c rfl
    rw [List.dropWhile_cons_of_neg (by simp [shown])]

/-- Blanks behind characters that do not end with one are all that is dropped there. -/
theorem trimRight_append {inner back : List Char} (blanks : ∀ c ∈ back, isBlank c = true)
    (last : ∀ c ∈ inner.getLast?, isBlank c = false) : trimRight (inner ++ back) = inner := by
  -- Read from its end the text has the blanks in front.
  have turned : trimLeft (back.reverse ++ inner.reverse) = inner.reverse :=
    trimLeft_append (by simpa using blanks) (by simpa using last)
  rw [trimLeft] at turned
  rw [trimRight, List.reverse_append, turned, List.reverse_reverse]

/-- Dropped blanks leave characters that do not begin with one. -/
theorem isBlank_head?_trimLeft (chars : List Char) : ∀ c ∈ (trimLeft chars).head?, isBlank c = false := by
  intro c head
  have stopped := List.head?_dropWhile_not isBlank chars
  rw [trimLeft, Option.mem_def] at head
  rwa [head] at stopped

/-- What is left of characters without the blanks around it is what dropping blanks at both ends leaves. -/
theorem Trims.eq_trim {chars inner : List Char} (trims : Trims chars inner) : inner = trim chars := by
  obtain @⟨front, inner, back, blanks, first, last⟩ := trims
  obtain ⟨before, behind⟩ := List.forall_mem_append.mp blanks
  cases inner with
  | nil =>
    -- Nothing but blanks is dropped from the front already.
    rw [trim, trimLeft, List.dropWhile_eq_nil_iff.mpr (by simpa using blanks)]
    rfl
  | cons c rest => rw [trim, trimLeft_append before (by simpa using first), trimRight_append behind last]

/-- Dropping blanks at both ends leaves what neither begins nor ends with one. -/
theorem trims_trim (chars : List Char) : Trims chars (trim chars) := by
  -- What is dropped are the blanks that the text begins with, and then those that it ends with.
  have front : chars.takeWhile isBlank ++ trimLeft chars = chars := List.takeWhile_append_dropWhile
  have back : trim chars ++ ((trimLeft chars).reverse.takeWhile isBlank).reverse = trimLeft chars := by
    rw [trim, trimRight, ← List.reverse_append, List.takeWhile_append_dropWhile, List.reverse_reverse]
  have parts : Trims (chars.takeWhile isBlank ++
      (trim chars ++ ((trimLeft chars).reverse.takeWhile isBlank).reverse)) (trim chars) := by
    constructor
    case blanks =>
      intro c member
      rw [List.mem_append, List.mem_reverse] at member
      rcases member with before | behind
      · exact List.mem_takeWhile_imp before
      · exact List.mem_takeWhile_imp behind
    case first =>
      -- What is left begins as the text without the blanks in front does, unless nothing is left.
      intro c head
      refine isBlank_head?_trimLeft chars c ?_
      rw [← back]
      exact List.mem_head?_append_of_mem_head? head
    case last =>
      intro c ending
      rw [trim, trimRight, List.getLast?_reverse] at ending
      exact isBlank_head?_trimLeft (trimLeft chars).reverse c ending
  rwa [back, front] at parts

end UdsCatalog.Text
