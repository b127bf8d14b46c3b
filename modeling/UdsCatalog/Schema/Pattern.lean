import UdsCatalog.Schema.CharSet
import UdsCatalog.Text.Category

/-!
Patterns of texts, and where the matches of those end that need no memory. Of several ways to match,
earlier alternatives and more rounds are preferred; a list of places has the preferred ones first.
-/

namespace UdsCatalog.Schema

/-- A pattern of texts. -/
inductive Pattern where
  /-- Matches without taking a character. -/
  | nothing
  | one (set : CharSet)
  | andThen (a b : Pattern)
  | either (a b : Pattern)
  /-- Matches in a row, at least and at most so many, as many or as few of them as possible. -/
  | repeated (a : Pattern) (least : Nat) (most : Option Nat) (few : Bool)
  | atStart
  | atEnd
  | atLineStart
  | atLineEnd
  /-- Between a character of a word and one of no word, or nowhere near such a change. -/
  | atEdge (wanted : Bool)
  /-- Remembers under a number what the pattern matches. -/
  | group (number : Nat) (a : Pattern)
  /-- The text that is remembered under a number, once more. -/
  | again (number : Nat)
  /-- A group has begun on the way here. -/
  | hasBegun (number : Nat)
  /-- The preferred match only, whatever follows. -/
  | settled (a : Pattern)
  /-- A match begins here, or none does; nothing is taken, though groups may be remembered. -/
  | ahead (wanted : Bool) (a : Pattern)
  /-- A match begins so many characters before, or none does; nothing is taken. -/
  | behind (steps : Nat) (wanted : Bool) (a : Pattern)
  /-- Goes on with the second pattern behind the preferred match of the first, and with the third if
  there is none. -/
  | choose (condition yes no : Pattern)
  deriving DecidableEq, Repr

/-- What is remembered of a group: where it begins and, once it is matched, where it ends. -/
structure Found where
  start : Nat
  stop : Option Nat
  deriving DecidableEq, Repr

/-- A place in a text: the characters in front of it, the nearest first, those behind it, and what has
been matched on the way. -/
structure Spot where
  before : List Char
  rest : List Char
  /-- How many characters stand in front. -/
  offset : Nat
  found : List (Nat × Found)
  deriving DecidableEq, Repr

namespace Spot

/-- The place at the start of a text. -/
def start (text : List Char) : Spot := ⟨[], text, 0, []⟩

/-- All places of a text from the given one on. -/
def onward (before : List Char) (offset : Nat) : List Char → List Spot
  -- The place behind the last character is one too, as empty matches may begin there.
  | [] => [⟨before, [], offset, []⟩]
  | c :: rest => ⟨before, c :: rest, offset, []⟩ :: onward (c :: before) (offset + 1) rest

/-- Places of one text are the same if they have as much in front. -/
def same (a b : Spot) : Bool := a.offset == b.offset

/-- Steps over characters that stand behind the place. -/
def skip (spot : Spot) : List Char → List Char → Spot
  | [], rest => { spot with rest := rest }
  -- The nearest character is on top of those in front, hence one at a time.
  | c :: taken, rest => skip { spot with before := c :: spot.before, offset := spot.offset + 1 } taken rest

/-- Takes one character of a set. -/
def take? (set : CharSet) (spot : Spot) : Option Spot :=
  match spot.rest with
  | [] => none
  | c :: rest => if set.holds c then some (spot.skip [c] rest) else none

/-- The place so many characters before. -/
def back? : Nat → Spot → Option Spot
  | 0, spot => some spot
  | steps + 1, spot =>
    -- There is no place in front of the text.
    match spot.before with
    | [] => none
    | c :: before => back? steps { spot with before, rest := c :: spot.rest, offset := spot.offset - 1 }

/-- A word begins or ends at a place. -/
def isEdge (spot : Spot) : Bool :=
  -- Outside of the text there is no character of a word.
  spot.before.head?.any Text.isWordChar != spot.rest.head?.any Text.isWordChar

/-- What is remembered under a number. -/
def found? (spot : Spot) (number : Nat) : Option Found := spot.found.lookup number

/-- Remembers something under a number. -/
def put (spot : Spot) (number : Nat) (found : Found) : Spot :=
  -- One entry for each number, so that the latest match is what is remembered.
  { spot with found := (number, found) :: spot.found.filter (·.1 != number) }

/-- Begins a group. Where it ended the last time is kept until it ends again. -/
def openGroup (number : Nat) (spot : Spot) : Spot :=
  -- From inside the group, a reference to it goes from the new start to the old end.
  spot.put number ⟨spot.offset, (spot.found? number).bind (·.stop)⟩

/-- Ends a group. -/
def closeGroup (number : Nat) (spot : Spot) : Spot :=
  match spot.found? number with
  | some found => spot.put number { found with stop := some spot.offset }
  | none => spot

/-- The whole text, on both sides of a place. -/
def whole (spot : Spot) : List Char := spot.before.reverse ++ spot.rest

/-- Takes the text that is remembered under a number, which may lie behind the place. -/
def again? (number : Nat) (spot : Spot) : Option Spot :=
  match spot.found? number with
  | some ⟨start, some stop⟩ =>
    -- The ends count from the start of the text, so both sides of the place are needed.
    let text := (spot.whole.drop start).take (stop - start)
    if text.isPrefixOf spot.rest then some (spot.skip text (spot.rest.drop text.length)) else none
  -- A group that has not matched refers to nothing, which never matches.
  | _ => none

end Spot

namespace Pattern

/-- Places without repetition; the first of several same ones stays. -/
def distinct (spots : List Spot) : List Spot :=
  -- Kept places are stacked, so the order is turned round at the end.
  (spots.foldl (fun kept spot => if kept.any spot.same then kept else spot :: kept) []).reverse

/-- Adds a place and those that up to so many rounds lead to from there, the last added first. Each has
the number of rounds that were left. -/
def explore (step : Spot → List Spot) (few : Bool) :
    Nat → List (Nat × Spot) → Spot → List (Nat × Spot)
  -- Without rounds left, a place is only worth adding when it is new.
  | 0, seen, spot => if seen.any (spot.same ·.2) then seen else (0, spot) :: seen
  | rounds + 1, seen, spot =>
    -- Everything from here has been explored with at least as many rounds.
    if seen.any fun (left, other) => rounds < left && spot.same other then seen
    -- The preferred place is the one that is added first: the nearest, or the farthest.
    else if few then (step spot).foldl (explore step few rounds) ((rounds + 1, spot) :: seen)
    else (rounds + 1, spot) :: (step spot).foldl (explore step few rounds) seen

/-- The places behind a given number of rounds. -/
def rounds (step : List Spot → List Spot) : Nat → List Spot → List Spot
  | 0, spots => spots
  | _ + 1, [] => []
  | count + 1, spots => rounds step count (step spots)

/-- The places behind further rounds: at most so many, or any number of rounds that each take
something. -/
def furtherRounds (step : Spot → List Spot) (few : Bool) (most : Option Nat) (spots : List Spot) :
    List Spot :=
  let visited : List (Nat × Spot) := match most with
    -- A bound may be spent on rounds that take nothing, but they lead nowhere new.
    | some limit =>
      let onward (spot : Spot) := (step spot).filter fun next => !spot.same next
      spots.foldl (explore onward few limit) []
    -- Each round takes a character, so their number is bounded by the rest of the text.
    | none =>
      let onward (spot : Spot) := (step spot).filter fun next : Spot => spot.offset < next.offset
      spots.foldl (fun seen spot => explore onward few spot.rest.length seen spot) []
  distinct (visited.map (·.2)).reverse

/-- The places where matches that begin at the given places end. Patterns with memory are left to a
search that follows one way at a time. -/
def after : Pattern → List Spot → List Spot
  | .nothing, spots => spots
  | .one set, spots => spots.filterMap (Spot.take? set)
  | .andThen a b, spots => b.after (a.after spots)
  | .either a b, spots => distinct (spots.flatMap fun spot => a.after [spot] ++ b.after [spot])
  -- The rounds that must be come first, and only further ones are a choice.
  | .repeated a least most few, spots =>
    furtherRounds (fun spot => a.after [spot]) few (most.map (· - least)) (rounds a.after least spots)
  | .atStart, spots => spots.filter (·.before.isEmpty)
  | .atEnd, spots => spots.filter (·.rest.isEmpty)
  | .atLineStart, spots => spots.filter fun spot => spot.before.head?.all (· == '\n')
  | .atLineEnd, spots => spots.filter fun spot => spot.rest.head?.all (· == '\n')
  | .atEdge wanted, spots => spots.filter (·.isEdge == wanted)
  -- Not reached, as only patterns without memory are matched this way.
  | _, _ => []

/-- A pattern without memory: what follows it never depends on how it was matched. -/
def isRegular : Pattern → Bool
  | .andThen a b | .either a b => a.isRegular && b.isRegular
  | .repeated a _ _ _ => a.isRegular
  -- These look at what was remembered, or keep what follows from going back.
  | .group .. | .again _ | .hasBegun _ | .settled _ | .ahead .. | .behind .. | .choose .. => false
  | _ => true

end Pattern

end UdsCatalog.Schema
