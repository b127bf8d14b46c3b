import Mathlib
import UdsCatalog.Text.Snake

/-!
Names in snake case tell what they were made from. Where their segments begin can be seen, so that of an
ASCII name nothing is lost but the case of its first character.
-/

namespace UdsCatalog.Text

variable {form opening inside : Char → Char} {chars others : List Char}

/-- All characters are those of ASCII. -/
def IsAscii (chars : List Char) : Prop := ∀ c ∈ chars, c.toNat < 0x80

/-- Characters that are the same, except that the first ones may differ in case. -/
def SameButFirstCase : List Char → List Char → Prop
  | [], [] => True
  | first :: rest, other :: others => first.toLower = other.toLower ∧ rest = others
  | _, _ => False

/-- A form of ASCII characters in one case. It is undone in one way for a character that opens a segment, and
in another one for a small letter inside of a segment. -/
structure IsCase (form opening inside : Char → Char) : Prop where
  eq_iff : ∀ c d, form c = form d ↔ c.toLower = d.toLower
  /-- The underscore that is put in front of a segment stays one. -/
  underscore : form '_' = '_'
  opening : ∀ c, c.toNat < 0x80 → isSmall c = false → opening (form c) = c
  inside : ∀ c, c.toNat < 0x80 → isSmall c = true → inside (form c) = c ∧ form c ≠ '_'

/-- What holds of all codes of ASCII holds of its characters. -/
theorem forall_ascii {holds : Char → Prop} (each : ∀ code < 0x80, holds (Char.ofNat code)) (c : Char)
    (ascii : c.toNat < 0x80) : holds c := by
  simpa using each c.toNat ascii

/-- In capitals the letters inside of a segment were small, and what opens one is as it was. -/
theorem isCase_toUpper : IsCase Char.toUpper id Char.toLower where
  -- Capital and small forms determine each other.
  eq_iff c d := by
    constructor
    · intro same
      rw [← Char.toLower_toUpper_eq_toLower, same, Char.toLower_toUpper_eq_toLower]
    · intro same
      rw [← Char.toUpper_toLower_eq_toUpper, same, Char.toUpper_toLower_eq_toUpper]
  underscore := rfl
  opening := forall_ascii (by decide)
  inside := forall_ascii (by decide)

/-- In small letters those that open a segment were capitals, and what is inside of one is as it was. -/
theorem isCase_toLower : IsCase Char.toLower Char.toUpper id where
  eq_iff _ _ := Iff.rfl
  underscore := rfl
  opening := forall_ascii (by decide)
  inside := forall_ascii (by decide)

/-- Undoes the breaks and the case: a character behind an underscore opens a segment, and any other stands
inside of one. -/
def rejoin (opening inside : Char → Char) : List Char → List Char
  | '_' :: c :: rest => opening c :: rejoin opening inside rest
  | c :: rest => inside c :: rejoin opening inside rest
  | [] => []

/-- Rejoining the segments of ASCII characters gives these characters back. -/
theorem rejoin_breakBefore (case : IsCase form opening inside) (ascii : IsAscii chars) :
    rejoin opening inside ((breakBefore chars).map form) = chars := by
  -- Each character is written alone, or behind an underscore that no character inside of a segment is.
  induction chars with
  | nil => rfl
  | cons c rest ih =>
    obtain ⟨first, others⟩ := List.forall_mem_cons.mp ascii
    cases small : isSmall c with
    | true =>
      obtain ⟨back, other⟩ := case.inside c first small
      have alone : breakBefore (c :: rest) = c :: breakBefore rest := by simp [breakBefore, small]
      rw [alone, List.map_cons, rejoin.eq_2 _ _ _ _ (fun _ _ same => absurd same other), back, ih others]
    | false =>
      have broken : breakBefore (c :: rest) = '_' :: c :: breakBefore rest := by simp [breakBefore, small]
      rw [broken, List.map_cons, List.map_cons, case.underscore, rejoin, case.opening c first small,
        ih others]

/-- Segments of ASCII characters in one case are the same exactly when the characters are, except for the
case of the first ones. -/
theorem map_segment_eq_iff (case : IsCase form opening inside) (ascii : IsAscii chars)
    (otherAscii : IsAscii others) :
    (segment chars).map form = (segment others).map form ↔ SameButFirstCase chars others := by
  cases chars with
  | nil => cases others <;> simp [segment, SameButFirstCase]
  | cons first rest =>
    cases others with
    | nil => simp [segment, SameButFirstCase]
    | cons other others =>
      rw [segment, segment, List.map_cons, List.map_cons, List.cons.injEq, case.eq_iff, SameButFirstCase]
      refine and_congr_right fun _ => ⟨fun same => ?_, congrArg fun rest => (breakBefore rest).map form⟩
      -- What is rejoined from the same segments is the same.
      have ascii : IsAscii rest := (List.forall_mem_cons.mp ascii).2
      have otherAscii : IsAscii others := (List.forall_mem_cons.mp otherAscii).2
      rw [← rejoin_breakBefore case ascii, same, rejoin_breakBefore case otherAscii]

/-- The underscores that are put in front of segments are ASCII characters as well. -/
theorem isAscii_breakBefore (ascii : IsAscii chars) : IsAscii (breakBefore chars) := by
  -- All that is put in between are underscores.
  induction chars with
  | nil => exact ascii
  | cons c rest ih =>
    obtain ⟨first, others⟩ := List.forall_mem_cons.mp ascii
    rw [breakBefore]
    split
    · exact List.forall_mem_cons.mpr ⟨first, ih others⟩
    · exact List.forall_mem_cons.mpr ⟨by decide, List.forall_mem_cons.mpr ⟨first, ih others⟩⟩

/-- The segments of ASCII characters are made of these and of underscores. -/
theorem isAscii_segment (ascii : IsAscii chars) : IsAscii (segment chars) := by
  cases chars with
  | nil => exact ascii
  | cons c rest =>
    obtain ⟨first, others⟩ := List.forall_mem_cons.mp ascii
    exact List.forall_mem_cons.mpr ⟨first, isAscii_breakBefore others⟩

/-- ASCII characters have one capital form each. -/
theorem toCapitals_ofList (ascii : IsAscii chars) :
    toCapitals (String.ofList chars) = String.ofList (chars.map Char.toUpper) := by
  have each : ∀ c ∈ chars, capitalForm c = [c.toUpper] := fun c member => if_pos (ascii c member)
  rw [toCapitals, String.toList_ofList, List.flatMap_congr each, List.map_eq_flatMap]

/-- ASCII characters have one small form each, whatever stands in front of them and behind. -/
theorem smallFormsAfter_eq (ascii : IsAscii chars) (before : List Char) :
    smallFormsAfter before chars = chars.map Char.toLower := by
  induction chars generalizing before with
  | nil => rfl
  | cons c rest ih =>
    obtain ⟨first, others⟩ := List.forall_mem_cons.mp ascii
    -- The one letter whose form depends on the letters around it is Greek.
    have latin : (c == capitalSigma) = false := by
      rw [beq_eq_false_iff_ne]
      rintro rfl
      exact absurd first (by decide)
    have form : smallForm c = [c.toLower] := if_pos first
    simp [smallFormsAfter, latin, form, ih others]

/-- ASCII characters are put in small letters one by one. -/
theorem toSmall_ofList (ascii : IsAscii chars) :
    toSmall (String.ofList chars) = String.ofList (chars.map Char.toLower) := by
  rw [toSmall, String.toList_ofList, smallFormsAfter_eq ascii]

/-- Two ASCII names have the same form in snake case, be it in capitals or in small letters, exactly when they
are the same except for the case of their first characters. -/
theorem snake_eq_iff {text other : String} (ascii : IsAscii text.toList) (otherAscii : IsAscii other.toList) :
    (upperSnake text = upperSnake other ↔ SameButFirstCase text.toList other.toList) ∧
      (lowerSnake text = lowerSnake other ↔ SameButFirstCase text.toList other.toList) := by
  -- Both forms are the segments in one case, and for ASCII either case tells the same apart.
  constructor
  · rw [upperSnake, upperSnake, toCapitals_ofList (isAscii_segment ascii),
      toCapitals_ofList (isAscii_segment otherAscii), String.ofList_inj,
      map_segment_eq_iff isCase_toUpper ascii otherAscii]
  · rw [lowerSnake, lowerSnake, toSmall_ofList (isAscii_segment ascii),
      toSmall_ofList (isAscii_segment otherAscii), String.ofList_inj,
      map_segment_eq_iff isCase_toLower ascii otherAscii]

/-- Of the two spellings of an acronym at the front of a name both give the same words. -/
theorem snake_eq_iff_capitalized : IsAscii "readDTC_2".toList ∧ IsAscii "ReadDTC_2".toList ∧
    upperSnake "readDTC_2" = upperSnake "ReadDTC_2" ∧ lowerSnake "readDTC_2" = lowerSnake "ReadDTC_2" := by
  have ascii : IsAscii "readDTC_2".toList := by simp [IsAscii]
  have otherAscii : IsAscii "ReadDTC_2".toList := by simp [IsAscii]
  -- The first letters are one letter in two cases, and the rest is the same.
  have same : SameButFirstCase "readDTC_2".toList "ReadDTC_2".toList := by
    simp [SameButFirstCase]
  obtain ⟨upper, lower⟩ := snake_eq_iff ascii otherAscii
  exact ⟨ascii, otherAscii, upper.mpr same, lower.mpr same⟩

/-- An underscore of the name is broken off like a capital letter, and so the two are told apart. -/
example : upperSnake "a_b" = "A__B" ∧ upperSnake "aB" = "A_B" ∧ lowerSnake "aB" = "a_b" := by
  decide +kernel

end UdsCatalog.Text
