import UdsCatalog.Schema.Pattern.Extent

/-!
Which parts of a pattern are matched at once, so that nothing goes back into them. A pattern without
memory is matched at once as a whole. In one with memory it is the parts without memory at the front and
at the end of a row whose width is known, and, inside a demand or a settled part, all those at the end.
Parts that are matched at once must be feasible.
-/

namespace UdsCatalog.Schema.Pattern

/-- A part that is matched at once must have sound counts and may need only so much room. -/
def isFeasible (a : Pattern) : Bool := a.hasSoundCounts && a.room ≤ roomLimit

/-- Matches a part at once. -/
def settle? (asked : List Nat) (a : Pattern) : Option Pattern :=
  match a with
  -- Nothing needs no plan, and settling it would only hide it.
  | .nothing => some .nothing
  | a => if a.isFeasible then some (.settled (a.forget asked)) else none

/-- A part can be matched at once. Where the search may go back into it, its width must be known. -/
def canSettle (asked : List Nat) (returning : Bool) (a : Pattern) : Bool :=
  -- All matches of a part of known width end at one place, so there is nothing to go back to.
  (a.forget asked).isRegular && (!returning || a.hasWidth)

/-- Where a part stands. -/
inductive Standing where
  | alone
  /-- At the front of a row, in front of parts that are not matched at once. -/
  | leading
  /-- In a row, in front of parts that are matched at once. -/
  | before (rest : Pattern)

/-- The parts behind one that are matched at once. -/
def Standing.rest : Standing → Pattern
  | .alone | .leading => .nothing
  | .before rest => rest

/-- One part and another behind it, which may be empty. -/
def inFrontOf (back front : Pattern) : Pattern :=
  match back with
  | .nothing => front
  | back => .andThen front back

/-- Matches a part that is no row at once, or looks into it. -/
def arrange (asked : List Nat) (returning : Bool) (standing : Standing) (a : Pattern)
    (lookInto : Bool → Option Pattern) : Option Pattern :=
  match standing with
  | .alone =>
    -- Nobody comes back to a part that stands alone, so its width does not matter.
    if !returning && canSettle asked false a then settle? asked a else lookInto returning
  | .leading => if canSettle asked true a then settle? asked a else lookInto true
  -- The parts behind are settled for themselves, as this one could not join them.
  | .before rest => do return inFrontOf (← settle? asked rest) (← lookInto true)

/-- Plans how a pattern is searched for; none when a part is not feasible. Only the groups whose matches
are asked for remain. -/
def plan? (asked : List Nat) : Pattern → Bool → Standing → Option Pattern
  | .andThen a b, returning, standing =>
    let split : Option Pattern := do
      return .andThen (← plan? asked a true .leading) (← plan? asked b true .alone)
    let row := inFrontOf standing.rest (.andThen a b)
    match standing with
    -- At the front the whole row is tried first, and then both halves.
    | .leading => if canSettle asked true row then settle? asked row else split
    | _ =>
      if canSettle asked returning row then settle? asked row
      -- The last part can join those behind it. The row gets shorter by one.
      else if canSettle asked returning b then
        plan? asked a returning (.before (inFrontOf standing.rest b))
      else do return inFrontOf (← settle? asked standing.rest) (← split)
  | .either a b, returning, standing =>
    arrange asked returning standing (.either a b) fun returning => do
      return .either (← plan? asked a returning .alone) (← plan? asked b returning .alone)
  | .repeated a least most few, returning, standing =>
    arrange asked returning standing (.repeated a least most few) fun returning => do
      -- Only a repetition of one round at most does not come back into its content.
      let once := least == 0 && most == some 1
      return .repeated (← plan? asked a (returning || !once) .alone) least most few
  | .group number a, returning, standing =>
    arrange asked returning standing (.group number a) fun returning => do
      -- The group is dropped when nobody refers to it, but its content stays.
      let a ← plan? asked a returning .alone
      return if asked.contains number then .group number a else a
  | .settled a, returning, standing =>
    arrange asked returning standing (.settled a) fun _ => do
      -- Nothing goes back into a settled part.
      return .settled (← plan? asked a false .alone)
  | .ahead wanted a, returning, standing =>
    arrange asked returning standing (.ahead wanted a) fun _ => do
      return .ahead wanted (← plan? asked a false .alone)
  | .behind steps wanted a, returning, standing =>
    arrange asked returning standing (.behind steps wanted a) fun _ => do
      return .behind steps wanted (← plan? asked a false .alone)
  | .choose condition yes no, returning, standing =>
    arrange asked returning standing (.choose condition yes no) fun returning => do
      return .choose (← plan? asked condition returning .alone)
        (← plan? asked yes returning .alone) (← plan? asked no returning .alone)
  | simple, returning, standing => arrange asked returning standing simple fun _ => some simple

end UdsCatalog.Schema.Pattern
