import Mathlib
import UdsCatalog.Schema.Pattern.Search

/-!
Which texts match a pattern of one character and a run of further ones. The places behind a run are the
ends of its beginnings, one for each number of characters that the run takes.
-/

namespace UdsCatalog.Schema

/-- The places that a run of characters of a set leads to, the shortest run first. -/
def Spot.trail (set : CharSet) (before : List Char) (offset : Nat) (found : List (Nat × Found)) :
    List Char → List Spot
  | [] => [⟨before, [], offset, found⟩]
  | c :: rest =>
    ⟨before, c :: rest, offset, found⟩ ::
      if set.holds c then trail set (c :: before) (offset + 1) found rest else []

namespace Spot

/-- Places farther on have at least one character in front. -/
theorem filter_onward_of_cons (c : Char) (before : List Char) (offset : Nat) (text : List Char) :
    (onward (c :: before) offset text).filter (·.before.isEmpty) = [] := by
  -- Going on only adds characters in front.
  induction text generalizing c before offset with
  | nil => simp [onward]
  | cons next rest ih => simp [onward, ih]

/-- Only one place of a text has nothing in front. -/
theorem filter_onward_start (text : List Char) :
    (onward [] 0 text).filter (·.before.isEmpty) = [start text] := by
  cases text with
  | nil => rfl
  | cons c rest => simp [onward, start, filter_onward_of_cons]

/-- A run goes only forward. -/
theorem offset_le_of_mem_trail {set : CharSet} {before : List Char} {offset : Nat}
    {found : List (Nat × Found)} {chars : List Char} {spot : Spot}
    (member : spot ∈ trail set before offset found chars) : offset ≤ spot.offset := by
  -- The trail only moves forward: its first place is the given one, and the others are behind it.
  induction chars generalizing before offset with
  | nil =>
    obtain rfl : spot = ⟨before, [], offset, found⟩ := by simpa [trail] using member
    exact le_rfl
  | cons c rest ih =>
    rcases List.mem_cons.mp member with rfl | later
    · exact le_rfl
    · by_cases holds : set.holds c
      · rw [if_pos holds] at later
        have farther : offset + 1 ≤ spot.offset := ih later
        omega
      · simp [holds] at later

/-- No place is reached twice. -/
theorem trail_pairwise (set : CharSet) (before : List Char) (offset : Nat)
    (found : List (Nat × Found)) (chars : List Char) :
    (trail set before offset found chars).Pairwise fun a b => a.offset ≠ b.offset := by
  induction chars generalizing before offset with
  | nil => simp [trail]
  | cons c rest ih =>
    rw [trail, List.pairwise_cons]
    by_cases holds : set.holds c
    · rw [if_pos holds]
      refine ⟨?_, ih _ _⟩
      -- Everything behind the first step has taken one character more.
      intro spot member
      have farther : offset + 1 ≤ spot.offset := offset_le_of_mem_trail member
      show offset ≠ spot.offset
      omega
    · simp [holds]

/-- A run leads to the end of the text when all characters are in the set. -/
theorem exists_end_trail_iff (set : CharSet) (before : List Char) (offset : Nat)
    (found : List (Nat × Found)) (chars : List Char) :
    (∃ spot ∈ trail set before offset found chars, spot.rest = []) ↔
      ∀ c ∈ chars, set.holds c = true := by
  -- The run stops at the first character that is not in the set.
  induction chars generalizing before offset with
  | nil => simp [trail]
  | cons c rest ih =>
    by_cases holds : set.holds c
    · simp [trail, holds, ih]
    · simp [trail, holds]

end Spot

namespace Pattern

/-- One character of a set that is to be taken. -/
theorem after_one_cons (set : CharSet) (before : List Char) (c : Char) (rest : List Char) (offset : Nat)
    (found : List (Nat × Found)) :
    (Pattern.one set).after [⟨before, c :: rest, offset, found⟩] =
      if set.holds c then [⟨c :: before, rest, offset + 1, found⟩] else [] := by
  by_cases holds : set.holds c <;> simp [after, Spot.take?, Spot.skip, holds]

/-- At the end of a text there is no character to take. -/
theorem after_one_nil (set : CharSet) (before : List Char) (offset : Nat) (found : List (Nat × Found)) :
    (Pattern.one set).after [⟨before, [], offset, found⟩] = [] := by
  simp [after, Spot.take?]

/-- Places that are all apart stay as they are. -/
theorem distinct_eq {spots : List Spot} (apart : spots.Pairwise fun a b => a.offset ≠ b.offset) :
    distinct spots = spots := by
  -- The places that are kept already stand in reverse order, and none of them comes again.
  have general : ∀ (rest kept : List Spot), rest.Pairwise (fun a b => a.offset ≠ b.offset) →
      (∀ spot ∈ rest, ∀ other ∈ kept, spot.offset ≠ other.offset) →
      rest.foldl (fun kept spot => if kept.any spot.same then kept else spot :: kept) kept =
        rest.reverse ++ kept := by
    intro rest
    induction rest with
    | nil => intro kept _ _; rfl
    | cons spot rest ih =>
      intro kept apart new
      obtain ⟨first, later⟩ := List.pairwise_cons.mp apart
      -- The place is new, so it is kept in front of the others.
      have unseen : kept.any spot.same = false := by
        rw [List.any_eq_false]
        intro other member
        have differs : spot.offset ≠ other.offset := new spot (by simp) other member
        simpa [Spot.same] using differs
      rw [List.foldl_cons, unseen, if_neg Bool.false_ne_true, ih _ later]
      · simp
      · intro next member other kept
        rcases List.mem_cons.mp kept with rfl | before
        · exact (first next member).symm
        · exact new next (by simp [member]) other before
  rw [distinct, general spots [] apart (by simp)]
  simp

/-- A step over one character of a set, which is always a step onward. -/
theorem filter_after_one (set : CharSet) (spot : Spot) :
    ((Pattern.one set).after [spot]).filter (fun next => decide (spot.offset < next.offset)) =
      (Pattern.one set).after [spot] := by
  obtain ⟨before, rest, offset, found⟩ := spot
  cases rest with
  | nil => rw [after_one_nil, List.filter_nil]
  | cons c rest => by_cases holds : set.holds c <;> simp [after_one_cons, holds]

/-- Exploring a run from a place visits the places of its trail. -/
theorem explore_one (set : CharSet) (before : List Char) (offset : Nat) (found : List (Nat × Found))
    (chars : List Char) :
    (explore (fun spot => (Pattern.one set).after [spot]) false chars.length []
        ⟨before, chars, offset, found⟩).map (·.2) =
      Spot.trail set before offset found chars := by
  -- There is one way on from each place, so nothing has been seen when the next one is visited.
  induction chars generalizing before offset with
  | nil => simp [explore, Spot.trail]
  | cons c rest ih =>
    by_cases holds : set.holds c
    · simp [explore, Spot.trail, after_one_cons, holds, ih]
    · simp [explore, Spot.trail, after_one_cons, holds]

/-- The places behind a run, the longest run first. -/
theorem after_run (set : CharSet) (before : List Char) (offset : Nat) (found : List (Nat × Found))
    (chars : List Char) :
    (Pattern.repeated (.one set) 0 none false).after [⟨before, chars, offset, found⟩] =
      (Spot.trail set before offset found chars).reverse := by
  have apart : (Spot.trail set before offset found chars).reverse.Pairwise
      fun a b => a.offset ≠ b.offset :=
    List.pairwise_reverse.mpr ((Spot.trail_pairwise _ _ _ _ _).imp Ne.symm)
  show furtherRounds (fun spot => (Pattern.one set).after [spot]) false none
    [⟨before, chars, offset, found⟩] = _
  -- The one place that the run begins at is explored, and each step takes a character.
  simp only [furtherRounds, List.foldl_cons, List.foldl_nil, filter_after_one, explore_one]
  exact distinct_eq apart

/-- No place leads behind a run. -/
theorem after_run_nil (set : CharSet) :
    (Pattern.repeated (.one set) 0 none false).after [] = [] := rfl

/-- The pattern of a whole text: one character, then any number of further ones. -/
def wholeRun (first further : CharSet) : Pattern :=
  .andThen (.andThen (.andThen .atStart (.one first)) (.repeated (.one further) 0 none false)) .atEnd

/-- A text matches when its first character is in the one set and all others are in the other set. -/
theorem examine_wholeRun_iff (first further : CharSet) (text : String) :
    (wholeRun first further).examine text = .matching ↔
      ∃ c rest, text.toList = c :: rest ∧ first.holds c = true ∧
        ∀ next ∈ rest, further.holds next = true := by
  have regular : (wholeRun first further).isRegular = true := rfl
  -- The search begins at the one place with nothing in front.
  have places : (wholeRun first further).after (Spot.onward [] 0 text.toList) =
      ((Pattern.repeated (.one further) 0 none false).after
        ((Pattern.one first).after [Spot.start text.toList])).filter (·.rest.isEmpty) := by
    rw [← Spot.filter_onward_start]
    rfl
  have verdict : (wholeRun first further).examine text = .matching ↔
      (wholeRun first further).after (Spot.onward [] 0 text.toList) ≠ [] := by
    rw [examine, if_pos regular]
    cases (wholeRun first further).after (Spot.onward [] 0 text.toList) <;> simp
  rw [verdict, places]
  cases chars : text.toList with
  | nil =>
    -- Without a first character there is no place to go on from.
    rw [Spot.start, after_one_nil, after_run_nil]
    simp
  | cons c rest =>
    by_cases holds : first.holds c
    · rw [Spot.start, after_one_cons, if_pos holds, after_run]
      have ends := Spot.exists_end_trail_iff further [c] 1 [] rest
      simpa [holds] using ends
    · rw [Spot.start, after_one_cons, if_neg holds, after_run_nil]
      simp [holds]

end Pattern

end UdsCatalog.Schema
