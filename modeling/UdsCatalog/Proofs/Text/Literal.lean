import Mathlib
import UdsCatalog.Text.Literal

/-!
String literals of generated code. A literal ends at the first double quote that no backslash takes in,
so a text stands whole between two quotes when it has neither such a quote nor a line feed.
-/

namespace UdsCatalog.Text

/-- A text that may stand between quotes as it is. -/
def IsQuotable (text : List Char) : Prop := '"' ∉ text ∧ '\n' ∉ text

instance : DecidablePred IsQuotable := fun text =>
  inferInstanceAs (Decidable ('"' ∉ text ∧ '\n' ∉ text))

/-- A text of one line whose double quotes each have a backslash directly in front of them. -/
structure IsIntact (text : List Char) : Prop where
  oneLine : '\n' ∉ text
  escaped : ∀ front rest, text = front ++ '"' :: rest → front.getLast? = some '\\'

/-- Reads the inside of a string literal behind its opening quote, and what is left behind its closing
one. A backslash takes in the character behind it, and a literal does not go beyond its line. -/
def readLiteral : List Char → Option (List Char × List Char)
  | [] => none
  | '\n' :: _ => none
  | '"' :: rest => some ([], rest)
  | '\\' :: c :: rest => (readLiteral rest).map fun (inside, behind) => ('\\' :: c :: inside, behind)
  | c :: rest => (readLiteral rest).map fun (inside, behind) => (c :: inside, behind)

/-- Whatever stands behind the closing quote, a literal with the text inside ends at this quote. -/
def EndsAtQuote (text : List Char) : Prop :=
  ∀ rest, readLiteral (text ++ '"' :: rest) = some (text, rest)

/-- A character of no meaning for literals is read as itself. -/
theorem readLiteral_cons {c : Char} (quote : c ≠ '"') (feed : c ≠ '\n') (backslash : c ≠ '\\')
    (rest : List Char) :
    readLiteral (c :: rest) =
      (readLiteral rest).map fun (inside, behind) => (c :: inside, behind) := by
  rw [readLiteral]
  all_goals simp_all

/-- A text without double quotes has none to look in front of. -/
theorem IsQuotable.isIntact {text : List Char} (quotable : IsQuotable text) : IsIntact text := by
  refine ⟨quotable.2, fun front rest same => ?_⟩
  exact absurd (same ▸ by simp) quotable.1

/-- Two intact texts stand intact one behind the other. -/
theorem IsIntact.append {first second : List Char} (head : IsIntact first) (tail : IsIntact second) :
    IsIntact (first ++ second) := by
  constructor
  case oneLine => simp [head.oneLine, tail.oneLine]
  case escaped =>
    intro front rest same
    rcases List.append_eq_append_iff.mp same with ⟨more, rfl, behind⟩ | ⟨more, rfl, behind⟩
    · -- The quote stands in the second text, whose front ends that of the whole.
      have last := tail.escaped more rest behind
      simp [last]
    · cases more with
      | nil =>
        -- The second text would begin with a quote, and have no backslash in front of it.
        have last := tail.escaped [] rest behind.symm
        cases last
      | cons c more =>
        obtain ⟨rfl, -⟩ := List.cons.inj behind
        exact head.escaped front more rfl

/-- What is written for one character of a detail text is intact. -/
theorem isIntact_escapeChar (c : Char) : IsIntact (escapeChar c) := by
  by_cases feed : c = '\n'
  · -- The letter stands for the line feed.
    subst feed
    exact IsQuotable.isIntact (by decide)
  · by_cases quote : c = '"'
    · subst quote
      refine ⟨by decide, fun front rest same => ?_⟩
      -- The quote stands behind the backslash and nowhere else.
      rcases front with _ | ⟨first, _ | ⟨second, more⟩⟩ <;> simp [escapeChar] at same
      simpa using same.1.symm
    · have single : escapeChar c = [c] := by simp [escapeChar, feed, quote]
      rw [single]
      exact IsQuotable.isIntact (by simp [IsQuotable, Ne.symm feed, Ne.symm quote])

/-- A detail text is intact, whatever it is made of. -/
theorem isIntact_escapeDetail (text : String) : IsIntact (escapeDetail text).toList := by
  -- It is made of what is written for its characters, one behind the other.
  rw [escapeDetail, String.toList_ofList]
  induction text.toList with
  | nil => exact ⟨List.not_mem_nil, by simp⟩
  | cons c rest ih => exact (isIntact_escapeChar c).append ih

/-- Without backslashes a text is intact exactly when it is quotable. -/
theorem isIntact_iff {text : List Char} (plain : '\\' ∉ text) : IsIntact text ↔ IsQuotable text := by
  constructor
  · rintro ⟨oneLine, escaped⟩
    refine ⟨fun quote => ?_, oneLine⟩
    -- A quote would have a backslash in front of it.
    obtain ⟨front, rest, rfl⟩ := List.append_of_mem quote
    have last := List.mem_of_getLast? (escaped front rest rfl)
    exact plain (List.mem_append_left _ last)
  · exact IsQuotable.isIntact

/-- An empty text ends a literal at once. -/
theorem endsAtQuote_nil : EndsAtQuote [] := fun _ => by rw [List.nil_append, readLiteral]

/-- A character of no meaning for literals does not end one. -/
theorem endsAtQuote_cons {c : Char} (quote : c ≠ '"') (feed : c ≠ '\n') (backslash : c ≠ '\\')
    (text : List Char) : EndsAtQuote (c :: text) ↔ EndsAtQuote text := by
  refine forall_congr' fun rest => ?_
  simp [readLiteral_cons quote feed backslash]

/-- A backslash takes in the character behind it, whatever it is. -/
theorem endsAtQuote_backslash_cons (c : Char) (text : List Char) :
    EndsAtQuote ('\\' :: c :: text) ↔ EndsAtQuote text := by
  refine forall_congr' fun rest => ?_
  simp [readLiteral]

/-- A lone backslash takes in the closing quote. -/
theorem not_endsAtQuote_backslash : ¬ EndsAtQuote ['\\'] := by
  intro ends
  have read := ends []
  simp [readLiteral] at read

/-- A double quote ends the literal in front of itself. -/
theorem not_endsAtQuote_quote (text : List Char) : ¬ EndsAtQuote ('"' :: text) := by
  intro ends
  have read := ends []
  simp [readLiteral] at read

/-- A line feed leaves the literal without an end. -/
theorem not_endsAtQuote_feed (text : List Char) : ¬ EndsAtQuote ('\n' :: text) := by
  intro ends
  have read := ends []
  simp [readLiteral] at read

/-- Without backslashes a literal ends at its own quote exactly when its text is quotable. -/
theorem endsAtQuote_iff {text : List Char} (plain : '\\' ∉ text) :
    EndsAtQuote text ↔ IsQuotable text := by
  induction text with
  | nil => simp [endsAtQuote_nil, IsQuotable]
  | cons c text ih =>
    have backslash := List.ne_of_not_mem_cons plain
    have behind := ih (List.not_mem_of_not_mem_cons plain)
    by_cases quote : c = '"'
    · subst quote
      simp [not_endsAtQuote_quote, IsQuotable]
    · by_cases feed : c = '\n'
      · subst feed
        simp [not_endsAtQuote_feed, IsQuotable]
      · -- The character is read, and what counts is the text behind it.
        rw [endsAtQuote_cons quote feed backslash.symm, behind]
        simp [IsQuotable, Ne.symm quote, Ne.symm feed]

/-- What is written for a character that is no backslash is read to its end. -/
theorem endsAtQuote_escapeChar_append {c : Char} (backslash : c ≠ '\\') (text : List Char) :
    EndsAtQuote (escapeChar c ++ text) ↔ EndsAtQuote text := by
  by_cases feed : c = '\n'
  · subst feed
    simp [escapeChar, endsAtQuote_backslash_cons]
  · by_cases quote : c = '"'
    · -- The backslash takes in the quote, so the literal goes on.
      subst quote
      simp [escapeChar, endsAtQuote_backslash_cons]
    · simp [escapeChar, feed, quote, endsAtQuote_cons quote feed backslash]

/-- A literal with a detail text that was written without backslashes ends at its own quote. -/
theorem endsAtQuote_escapeDetail {text : String} (plain : '\\' ∉ text.toList) :
    EndsAtQuote (escapeDetail text).toList := by
  -- Each character is passed in its escaped form, which neither ends the literal nor opens an escape.
  rw [escapeDetail, String.toList_ofList]
  generalize text.toList = chars at plain ⊢
  induction chars with
  | nil => exact endsAtQuote_nil
  | cons c rest ih =>
    have backslash := (List.ne_of_not_mem_cons plain).symm
    rw [List.flatMap_cons, endsAtQuote_escapeChar_append backslash]
    exact ih (List.not_mem_of_not_mem_cons plain)

end UdsCatalog.Text
