/-! Sets of code points as runs with a fixed step, the form in which the tables of Unicode are kept. -/

namespace UdsCatalog.Text

/-- Runs of code points: the first, the last and the step from one to the next. -/
abbrev CodeRuns := List (Nat × Nat × Nat)

/-- A code point lies in a table when one of its runs reaches it. -/
def CodeRuns.holds (runs : CodeRuns) (code : Nat) : Bool :=
  runs.any fun (first, last, step) => first ≤ code && code ≤ last && (code - first) % step == 0

end UdsCatalog.Text
