import UdsCatalog.Text.Letter.CaseTable

/-! Letters that differ in nothing but their case. -/

namespace UdsCatalog.Text

/-- Small letters of ASCII and beyond, with the way to their capital. -/
def capitalRuns : CaseRuns := ('a'.toNat, 'z'.toNat, 1, -32) :: capitalForms

/-- Capital letters of ASCII and beyond, with the way to their small form. -/
def smallRuns : CaseRuns := ('A'.toNat, 'Z'.toNat, 1, 32) :: smallForms

/-- Letters whose partner no case form leads to, and that partner. -/
def oddPartners : List (Nat × Nat) := [(0x1FD3, 0x390), (0x1FE3, 0x3B0), (0xFB05, 0xFB06)]

/-- The small letter without a dot, which is no form of any other letter. -/
def dotlessI : Nat := 0x131

/-- The code point of a letter in a form that all its cases share. -/
def foldCase (code : Nat) : Nat :=
  -- Its capital is the plain letter, but it is not a case of the plain small letter.
  if code = dotlessI then code
  else
    match oddPartners.lookup code with
    | some partner => partner
    | none =>
      -- Going to the capital and back leads all small forms of one letter to the same code point.
      let capital := (capitalRuns.partner? code).getD code
      (smallRuns.partner? capital).getD capital

/-- The code points that a case table leads from to the given one. -/
def CaseRuns.sources (runs : CaseRuns) (code : Nat) : List Nat :=
  runs.filterMap fun (first, last, step, offset) =>
    -- An offset may lead below zero, which the last test rules out.
    let source := (code - offset : Int).toNat
    if first ≤ source && source ≤ last && (source - first) % step == 0 && (source + offset : Int) == code
    then some source
    else none

/-- The code points of a letter in all its cases. -/
def caseVariants (code : Nat) : List Nat :=
  let small := foldCase code
  let capital := (capitalRuns.partner? small).getD small
  let odd := (oddPartners.filter fun (_, partner) => partner == small).map (·.1)
  -- What the tables lead to is only a candidate until it folds to the same letter.
  (small :: capital :: odd ++ smallRuns.sources small ++ capitalRuns.sources capital).filter
    fun other => foldCase other == small

end UdsCatalog.Text
