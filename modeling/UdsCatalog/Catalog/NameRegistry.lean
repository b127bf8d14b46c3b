/-!
Names within one scope. Every candidate is counted, and a repeated one is told apart by its count, so
the name that a candidate gets depends on the earlier occurrences of that candidate alone.
-/

namespace UdsCatalog

/-- How often each candidate of a naming scope has come back. -/
structure NameRegistry where
  repeats : List (String × Nat)
  deriving DecidableEq, Repr

namespace NameRegistry

/-- The candidate for values without a meaning of their own, which never stands bare. -/
def reservedName : String := "reserved"

/-- A scope without names. The reserved candidate already counts as seen, so that its first
occurrence is a repeat. -/
def fresh : NameRegistry := ⟨[(reservedName, 0)]⟩

/-- A candidate with its count; the count zero is not written. -/
def numbered (candidate : String) (count : Nat) : String :=
  -- The first occurrence is bare, and the second one has the number one.
  if count == 0 then candidate else candidate ++ toString count

/-- Counts a candidate among the repeats: its count, and the new list. -/
def tally (candidate : String) : List (String × Nat) → Nat × List (String × Nat)
  -- The list grows at its end, so that candidates stay in the order in which they came.
  | [] => (0, [(candidate, 0)])
  | (other, count) :: rest =>
    -- The count of the candidate is all that changes, and no other candidate is looked at.
    if other == candidate then (count + 1, (other, count + 1) :: rest)
    else
      let (found, rest) := tally candidate rest
      (found, (other, count) :: rest)

/-- The name for a candidate, and the scope after it. -/
def register (registry : NameRegistry) (candidate : String) : String × NameRegistry :=
  let (count, repeats) := tally candidate registry.repeats
  -- A numbered name is not counted as a candidate. It may meet a later one that is written so.
  (numbered candidate count, ⟨repeats⟩)

/-- The names for several candidates in order, and the scope after them. -/
def registerAll (registry : NameRegistry) : List String → List String × NameRegistry
  | [] => ([], registry)
  | candidate :: rest =>
    -- The scope is threaded from left to right, as names are given in the order of the records.
    let (name, registry) := registry.register candidate
    let (names, registry) := registry.registerAll rest
    (name :: names, registry)

end NameRegistry

end UdsCatalog
