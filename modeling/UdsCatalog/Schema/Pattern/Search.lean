import UdsCatalog.Schema.Pattern

/-!
The search for a match, one way at a time. Where a way fails, the search goes back to the last choice
that was left open; after too many such steps it is given up.
-/

namespace UdsCatalog.Schema

/-- What a search comes to, and how often it may still go back. -/
inductive Outcome where
  | found (spot : Spot) (left : Nat)
  | failed (left : Nat)
  | gaveUp
  deriving DecidableEq, Repr

/-- How a search goes on at a place when it may go back so often. -/
abbrev Course := Spot → Nat → Outcome

namespace Outcome

/-- Goes back to a choice after a failure. -/
def orElse (first : Outcome) (second : Nat → Outcome) : Outcome :=
  match first with
  -- Each way back costs one, whoever takes it.
  | .failed 0 => .gaveUp
  | .failed (left + 1) => second left
  -- What was found is final, and so is giving up.
  | other => other

/-- Goes on where something was found, without a way back into how it was found. -/
def andThen (first : Outcome) (next : Course) : Outcome :=
  match first with
  | .found spot left => next spot left
  | other => other

/-- Goes on if nothing was found. -/
def whenFailed (first : Outcome) (next : Nat → Outcome) : Outcome :=
  match first with
  -- A match where none may be is a failure, at the price that it had.
  | .found _ left => .failed left
  | other => other.orElse next

/-- Goes on at a place, if there is one. -/
def at? (next : Course) (left : Nat) : Option Spot → Outcome
  | some spot => next spot left
  | none => .failed left

end Outcome

namespace Pattern

/-- A given number of rounds. -/
def inRow (round : Course → Course) : Nat → Course → Course
  | 0, next, spot, left => next spot left
  -- The rest of the rounds is how the first one goes on, so all its ways are tried.
  | count + 1, next, spot, left => round (inRow round count next) spot left

/-- Up to so many rounds, as many or as few as possible. -/
def upTo (round : Course → Course) (few : Bool) (next : Course) : Nat → Course
  | 0, spot, left => next spot left
  | count + 1, spot, left =>
    let more := round (upTo round few next count) spot
    -- The order of the two is all that sets few and many apart.
    if few then (next spot left).orElse more else (more left).orElse (next spot)

/-- A round that must take something. -/
def taking (round : Course → Course) : Course → Course := fun next spot =>
  -- Rounds without a character could go on for ever.
  round (fun later left => if spot.offset < later.offset then next later left else .failed left) spot

/-- Searches for a match that begins at a place, and goes on behind it. -/
def search : Pattern → Course → Course
  | .andThen a b, next, spot, left => a.search (b.search next) spot left
  | .either a b, next, spot, left => (a.search next spot left).orElse (b.search next spot)
  -- Where the bounds are the wrong way round, the smaller one counts.
  | .repeated a least (some most) few, next, spot, left =>
    inRow a.search (min least most) (upTo a.search few next (most - least)) spot left
  | .repeated a least none few, next, spot, left =>
    let further : Course := fun spot left =>
      -- One round more than there are characters is never reached.
      upTo (taking a.search) few next (spot.rest.length + 1) spot left
    inRow a.search least further spot left
  | .group number a, next, spot, left =>
    a.search (fun last left => next (last.closeGroup number) left) (spot.openGroup number) left
  | .again number, next, spot, left => .at? next left (spot.again? number)
  | .hasBegun number, next, spot, left =>
    if (spot.found? number).isSome then next spot left else .failed left
  -- The part is searched with a course of its own, which forgets how it got there.
  | .settled a, next, spot, left =>
    if a.isRegular then .at? next left (a.after [spot]).head?
    else (a.search .found spot left).andThen next
  -- What was remembered inside is kept, but the place is the old one.
  | .ahead true a, next, spot, left =>
    a.search (fun last left => next { spot with found := last.found } left) spot left
  | .ahead false a, next, spot, left => (a.search .found spot left).whenFailed (next spot)
  | .behind steps true a, next, spot, left =>
    .at? (a.search fun last left => next { spot with found := last.found } left) left
      (spot.back? steps)
  | .behind steps false a, next, spot, left =>
    (Outcome.at? (a.search .found) left (spot.back? steps)).whenFailed (next spot)
  -- Once the condition holds, the third pattern is out of reach.
  | .choose condition yes no, next, spot, left =>
    match condition.search .found spot left with
    | .found last left => yes.search next last left
    | other => other.orElse (no.search next spot)
  | simple, next, spot, left => .at? next left (simple.after [spot]).head?

/-- Searches for a match at any of several places, the first ones first. -/
def searchFrom (pattern : Pattern) : List Spot → Nat → Outcome
  | [], left => .failed left
  | spot :: spots, left =>
    -- The whole match is the group with the number zero.
    (pattern.search .found (spot.openGroup 0) left).orElse (searchFrom pattern spots)

/-- How often a search may go back. -/
def patience : Nat := 1000000

/-- What a text is found to be when it is held against a pattern. -/
inductive Verdict where
  | matching
  | differing
  /-- The search was given up. -/
  | undecided
  deriving DecidableEq, Repr

/-- Holds a text against a pattern. It matches when some part of it does. -/
def examine (pattern : Pattern) (text : String) : Verdict :=
  let starts := Spot.onward [] 0 text.toList
  -- All ways are followed at once here, so the search never gives up.
  if pattern.isRegular then if (pattern.after starts).isEmpty then .differing else .matching
  else
    match pattern.searchFrom starts patience with
    | .found .. => .matching
    | .failed _ => .differing
    | .gaveUp => .undecided

end Pattern

end UdsCatalog.Schema
