import UdsCatalog.Proofs.Text.Literal

/-!
Detail texts with backslashes. A backslash is written as it stands, so what counts is how many of them
stand in front of a double quote or at the end: a literal ends behind its text exactly when each such
run is even.
-/

namespace UdsCatalog.Text

/-- A longest run of backslashes: what stands in front of it, how many there are, and what stands behind. -/
structure IsRun (text front : List Char) (length : Nat) (rest : List Char) : Prop where
  whole : text = front ++ (List.replicate length '\\' ++ rest)
  front_ne : front.getLast? ≠ some '\\'
  rest_ne : rest.head? ≠ some '\\'

/-- Each longest run of backslashes that a double quote or the end follows is even. -/
def HasEvenRuns (text : List Char) : Prop :=
  ∀ front length rest, IsRun text front length rest →
    rest.head? = none ∨ rest.head? = some '"' → Even length

/-- Reads `\n` as a line feed and `\"` as a double quote. -/
def unescape : List Char → List Char
  | [] => []
  | '\\' :: 'n' :: rest => '\n' :: unescape rest
  | '\\' :: '"' :: rest => '"' :: unescape rest
  | c :: rest => c :: unescape rest

/-- A run ends where another character follows, so its length is told by the text. -/
theorem replicate_append_inj {c : Char} {first second : Nat} {rest other : List Char}
    (ends : rest.head? ≠ some c) (otherEnds : other.head? ≠ some c)
    (same : List.replicate first c ++ rest = List.replicate second c ++ other) :
    first = second ∧ rest = other := by
  -- Both runs lose a character at a time, and must be at their ends together.
  induction first generalizing second with
  | zero =>
    cases second with
    | zero => exact ⟨rfl, same⟩
    | succ second =>
      rw [show rest = _ from same] at ends
      exact absurd rfl ends
  | succ first ih =>
    cases second with
    | zero =>
      rw [show other = _ from same.symm] at otherEnds
      exact absurd rfl otherEnds
    | succ second =>
      obtain ⟨rfl, behind⟩ := ih (List.cons.inj same).2
      exact ⟨rfl, behind⟩

/-- What stands in front of a run is not made of backslashes alone. -/
theorem eq_nil_of_prefix_replicate {front : List Char} {length : Nat}
    (front_ne : front.getLast? ≠ some '\\') (within : front <+: List.replicate length '\\') : front = [] := by
  -- Its last character would be one of them.
  refine List.getLast?_eq_none_iff.mp (Option.eq_none_iff_forall_ne_some.mpr fun last found => ?_)
  have backslash := List.eq_of_mem_replicate (within.subset (List.mem_of_getLast? found))
  exact front_ne (found.trans (congrArg some backslash))

/-- A run is the first one, which ends where another character follows, or it stands behind this
character. -/
theorem isRun_replicate_cons {c : Char} (other : c ≠ '\\') {length more : Nat}
    {text front rest : List Char} (run : IsRun (List.replicate length '\\' ++ c :: text) front more rest) :
    (more = length ∧ rest = c :: text) ∨ ∃ behind, IsRun text behind more rest := by
  obtain ⟨whole, front_ne, rest_ne⟩ := run
  have inside : front <+: List.replicate length '\\' ++ c :: text := ⟨_, whole.symm⟩
  have ended : List.replicate length '\\' ++ [c] <+: List.replicate length '\\' ++ c :: text := by simp
  -- The front either lies within the first run, or it reaches beyond the character that ends it.
  have reaches : front <+: List.replicate length '\\' ∨ List.replicate length '\\' ++ [c] <+: front := by
    rcases List.prefix_or_prefix_of_prefix inside ended with within | beyond
    · rcases List.prefix_concat_iff.mp within with rfl | within
      · exact .inr List.prefix_rfl
      · exact .inl within
    · exact .inr beyond
  rcases reaches with within | ⟨behind, rfl⟩
  · obtain rfl := eq_nil_of_prefix_replicate front_ne within
    obtain ⟨rfl, rfl⟩ := replicate_append_inj (by simpa using other) rest_ne whole
    exact .inl ⟨rfl, rfl⟩
  · refine .inr ⟨behind, by simpa using whole, fun last => front_ne ?_, rest_ne⟩
    rw [List.getLast?_append, last, Option.some_or]

/-- Behind a first run that another character ends, the runs are those of what follows. -/
theorem hasEvenRuns_replicate_cons {c : Char} (other : c ≠ '\\') (length : Nat) (text : List Char) :
    HasEvenRuns (List.replicate length '\\' ++ c :: text) ↔ (c = '"' → Even length) ∧ HasEvenRuns text := by
  constructor
  · intro even
    refine ⟨fun quote => ?_, ?_⟩
    · exact even [] length (c :: text) ⟨by simp, by simp, by simpa using other⟩ (by simp [quote])
    · -- A run of the text behind is one of the whole, with more in front.
      rintro front more rest ⟨rfl, front_ne, rest_ne⟩ follows
      refine even (List.replicate length '\\' ++ c :: front) more rest ⟨by simp, ?_, rest_ne⟩ follows
      cases front with
      | nil => simpa using other
      | cons first front => simpa using front_ne
  · rintro ⟨first, even⟩ front more rest run follows
    rcases isRun_replicate_cons other run with ⟨rfl, rfl⟩ | ⟨behind, within⟩
    · exact first (by simpa using follows)
    · exact even behind more rest within follows

/-- Backslashes alone are one run. -/
theorem hasEvenRuns_replicate (length : Nat) : HasEvenRuns (List.replicate length '\\') ↔ Even length := by
  -- The only run is the whole text.
  constructor
  · intro even
    exact even [] length [] ⟨by simp, by simp, by simp⟩ (.inl rfl)
  · rintro even front more rest ⟨whole, front_ne, rest_ne⟩ -
    obtain rfl := eq_nil_of_prefix_replicate front_ne ⟨_, whole.symm⟩
    rw [List.nil_append, ← List.append_nil (List.replicate length _)] at whole
    obtain ⟨rfl, -⟩ := replicate_append_inj (by simp) rest_ne whole
    exact even

/-- Of a run of backslashes, pairs take each other in, and the last one of an odd run is left. -/
theorem endsAtQuote_replicate_append (length : Nat) (text : List Char) :
    EndsAtQuote (List.replicate length '\\' ++ text) ↔
      EndsAtQuote (if Even length then text else '\\' :: text) := by
  -- Two backslashes at a time make one escape, so only the parity is left.
  induction length using Nat.twoStepInduction with
  | zero => simp
  | one => simp
  | more length ih _ =>
    rw [List.replicate_succ, List.replicate_succ, List.cons_append, List.cons_append,
      endsAtQuote_backslash_cons, ih]
    simp [Nat.even_add]

/-- What is written for a character behind a run of backslashes is read to its end, unless it is a double
quote behind an odd run. -/
theorem endsAtQuote_replicate_escapeChar {c : Char} (other : c ≠ '\\') (length : Nat) (text : List Char) :
    EndsAtQuote (List.replicate length '\\' ++ (escapeChar c ++ text)) ↔
      (c = '"' → Even length) ∧ EndsAtQuote text := by
  rw [endsAtQuote_replicate_append]
  by_cases even : Even length
  · simp [even, endsAtQuote_escapeChar_append other]
  · -- The last backslash takes in the first character that was written.
    rw [if_neg even]
    by_cases quote : c = '"'
    · subst quote
      simp [even, escapeChar, endsAtQuote_backslash_cons, not_endsAtQuote_quote]
    · by_cases feed : c = '\n'
      · subst feed
        have letter := endsAtQuote_cons (c := 'n') (by decide) (by decide) (by decide) text
        simp [escapeChar, endsAtQuote_backslash_cons, letter]
      · simp [escapeChar, quote, feed, endsAtQuote_backslash_cons]

/-- A literal with a detail text ends at its own quote exactly when the runs of backslashes are even, also
when more backslashes stand in front. -/
theorem endsAtQuote_replicate_escape (length : Nat) (text : List Char) :
    EndsAtQuote (List.replicate length '\\' ++ text.flatMap escapeChar) ↔
      HasEvenRuns (List.replicate length '\\' ++ text) := by
  -- The scan carries the length of the run so far, which a backslash adds to and all else ends.
  induction text generalizing length with
  | nil =>
    rw [List.flatMap_nil, endsAtQuote_replicate_append, List.append_nil, hasEvenRuns_replicate]
    by_cases even : Even length
    · simp [even, endsAtQuote_nil]
    · simp [even, not_endsAtQuote_backslash]
  | cons c text ih =>
    rw [List.flatMap_cons]
    by_cases backslash : c = '\\'
    · subst backslash
      have longer := ih (length + 1)
      rw [List.replicate_succ', List.append_assoc, List.append_assoc] at longer
      exact longer
    · have behind := ih 0
      rw [endsAtQuote_replicate_escapeChar backslash, hasEvenRuns_replicate_cons backslash]
      simpa using and_congr_right fun _ => behind

/-- A character other than a backslash is read as itself. -/
theorem unescape_cons {c : Char} (backslash : c ≠ '\\') (rest : List Char) :
    unescape (c :: rest) = c :: unescape rest := by
  rw [unescape]
  all_goals
    intro _ same
    exact absurd same backslash

/-- Without backslashes the escapes are the only ones, and reading them back gives the text. -/
theorem unescape_escape {text : List Char} (plain : '\\' ∉ text) :
    unescape (text.flatMap escapeChar) = text := by
  induction text with
  | nil => rfl
  | cons c text ih =>
    have behind := ih (List.not_mem_of_not_mem_cons plain)
    have backslash := List.ne_of_not_mem_cons plain
    rw [List.flatMap_cons]
    -- Two characters have an escape, and all others stand for themselves.
    by_cases feed : c = '\n'
    · subst feed
      simp [escapeChar, unescape, behind]
    · by_cases quote : c = '"'
      · subst quote
        simp [escapeChar, unescape, behind]
      · have single : escapeChar c = [c] := by simp [escapeChar, feed, quote]
        rw [single, List.singleton_append, unescape_cons backslash.symm, behind]

/-- A literal with a detail text inside ends at its own quote, whatever stands behind it, exactly when each
longest run of backslashes that a double quote or the end of the text follows is even. A text without
backslashes is read back from its escapes. -/
theorem endsAtQuote_escapeDetail_iff (text : String) :
    (EndsAtQuote (escapeDetail text).toList ↔ HasEvenRuns text.toList) ∧
    ('\\' ∉ text.toList → String.ofList (unescape (escapeDetail text).toList) = text) := by
  rw [escapeDetail, String.toList_ofList]
  refine ⟨endsAtQuote_replicate_escape 0 text.toList, fun plain => ?_⟩
  rw [unescape_escape plain, String.ofList_toList]

end UdsCatalog.Text
