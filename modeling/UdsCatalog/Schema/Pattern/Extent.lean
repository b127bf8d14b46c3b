import UdsCatalog.Schema.Pattern

/-! How much a pattern takes: the characters of its matches, and the room that it needs itself. -/

namespace UdsCatalog.Schema

namespace Pattern

/-- The least number of characters that a match takes. -/
def leastWidth : Pattern → Nat
  | .one _ => 1
  | .andThen a b => a.leastWidth + b.leastWidth
  | .either a b => min a.leastWidth b.leastWidth
  | .repeated a least _ _ => a.leastWidth * least
  | .group _ a | .settled a => a.leastWidth
  | .choose condition yes no => condition.leastWidth + min yes.leastWidth no.leastWidth
  -- Places, looks to the side and references take nothing for certain.
  | _ => 0

/-- All matches take the same number of characters, as far as the shape of the pattern shows. -/
def hasWidth : Pattern → Bool
  | .andThen a b => a.hasWidth && b.hasWidth
  | .either a b => a.hasWidth && b.hasWidth && a.leastWidth == b.leastWidth
  | .repeated a least most _ => a.hasWidth && most == some least
  | .group _ a | .settled a => a.hasWidth
  -- What is remembered may be of any length.
  | .again _ => false
  | .choose condition yes no =>
    condition.hasWidth && yes.hasWidth && no.hasWidth &&
      -- The third pattern starts where the condition did, the second behind it.
      condition.leastWidth + yes.leastWidth == no.leastWidth
  | _ => true

/-- Demands that a match ends here, or that none does. It must be known how far back matches begin, at
least for each of the alternatives, if the pattern is a choice. -/
def lookBehind? (wanted : Bool) (pattern : Pattern) (branches : List Pattern) : Option Pattern :=
  let back (part : Pattern) := Pattern.behind part.leastWidth wanted part
  if pattern.hasWidth then some (back pattern)
  else if branches.all hasWidth then
    match branches.map back with
    | [] => none
    -- A match ends here if some alternative does, and none ends here if all do not.
    | first :: rest => some (rest.foldl (if wanted then .either else .andThen) first)
  else none

/-- The numbers of rounds that a repetition may name lie below this one when it is matched at once. -/
def roundsLimit : Nat := 0x1_0000_0000

/-- No repetition asks for more rounds than it allows, and none names too large a number. -/
def hasSoundCounts : Pattern → Bool
  | .andThen a b | .either a b => a.hasSoundCounts && b.hasSoundCounts
  | .repeated a least most _ =>
    -- Both numbers must be sound, also where the search would be content with any.
    a.hasSoundCounts && least < roundsLimit && most.all fun most => least ≤ most && most < roundsLimit
  | .group _ a => a.hasSoundCounts
  | _ => true

/-- Keeps only the groups whose matches are asked for. -/
def forget (wanted : List Nat) : Pattern → Pattern
  | .andThen a b => .andThen (a.forget wanted) (b.forget wanted)
  | .either a b => .either (a.forget wanted) (b.forget wanted)
  | .repeated a least most few => .repeated (a.forget wanted) least most few
  | .group number a =>
    -- A group that nobody refers to is only its content.
    if wanted.contains number then .group number (a.forget wanted) else a.forget wanted
  | .settled a => .settled (a.forget wanted)
  | .ahead found a => .ahead found (a.forget wanted)
  | .behind steps found a => .behind steps found (a.forget wanted)
  | .choose condition yes no =>
    .choose (condition.forget wanted) (yes.forget wanted) (no.forget wanted)
  | pattern => pattern

end Pattern

/-- The room for one state of a pattern. -/
def stateRoom : Nat := 32

/-- The room that a regular pattern may need at most. -/
def roomLimit : Nat := 10 * 0x10_0000

/-- The room that the steps into a set need. -/
def CharSet.room : CharSet → Nat
  | .range _ last => if last < 0x80 then 8 else stateRoom
  -- An estimate: what is needed exactly depends on how code points are spelt in bytes.
  | .runs table => stateRoom * table.length
  | .either a b => a.room + b.room
  | .both a b => a.room + b.room + 8 * stateRoom
  | .other a => a.room + 8 * stateRoom
  | .anyCase a => 2 * a.room

/-- The room that a regular pattern needs when its repetitions are written out. -/
def Pattern.room : Pattern → Nat
  | .one (.range first last) =>
    -- One character is one step for each of its bytes.
    if first == last then stateRoom * (Char.ofNat first).utf8Size
    else 2 * stateRoom + (CharSet.range first last).room
  | .one set => 2 * stateRoom + set.room
  | .andThen a b => a.room + b.room
  | .either a b => a.room + b.room + stateRoom
  -- The rounds are written out, and the last one is repeated.
  | .repeated a least none _ => a.room * max least 1 + stateRoom
  | .repeated a least (some most) _ => a.room * most + (most - least) * stateRoom
  | .group _ a => a.room + 2 * stateRoom
  | _ => stateRoom

end UdsCatalog.Schema
