import UdsCatalog.Text.Cluster.Table

/-!
Clusters of characters: what a reader takes for one character of a text, such as a letter with its marks,
a syllable of several parts or a flag. The clusters of a text, one after the other, are the text.
-/

namespace UdsCatalog.Text.Cluster

/-- The part that a character takes in clusters. -/
inductive Role where
  | carriageReturn
  | lineFeed
  | control
  /-- A mark without a width of its own. -/
  | extending
  | joiner
  | spacing
  | leading
  /-- One of the two letters of a flag. -/
  | region
  | initialPart
  | vowelPart
  | finalPart
  | openSyllable
  | closedSyllable
  | person
  /-- A person that a joiner ties to the picture in front. -/
  | relative
  | skinTone
  | tied
  | other
  deriving DecidableEq, Repr

/-- A code point lies between two others. -/
def isWithin (first last code : Nat) : Bool := first ≤ code && code ≤ last

/-- The first and the last syllable that is a character of its own. -/
def firstSyllable : Nat := 0xAC00

/-- The last of the syllables that are characters. -/
def lastSyllable : Nat := 0xD7A3

/-- The syllables that begin alike differ in so many ways to end; the first way is to stay open. -/
def endings : Nat := 28

/-- The part of a code point in Hangul syllables. -/
def hangulRole? (code : Nat) : Option Role :=
  if isWithin 0x1100 0x115F code || isWithin 0xA960 0xA97C code then some .initialPart
  else if isWithin 0x1160 0x11A7 code || isWithin 0xD7B0 0xD7C6 code then some .vowelPart
  else if isWithin 0x11A8 0x11FF code || isWithin 0xD7CB 0xD7FB code then some .finalPart
  else if isWithin firstSyllable lastSyllable code then
    -- The syllables of a beginning stand in a row, and the first one of the row has no final part.
    some (if (code - firstSyllable) % endings == 0 then .openSyllable else .closedSyllable)
  else none

/-- The part that a code point takes in clusters. -/
def roleOf (code : Nat) : Role :=
  -- Single code points and short ranges go first, where the tables would give a wider role.
  if code == 0x0D then .carriageReturn
  else if code == 0x0A then .lineFeed
  else if code == 0x200D then .joiner
  else if isWithin 0x1F1E6 0x1F1FF code then .region
  else if isWithin 0x1F3FB 0x1F3FF code then .skinTone
  else if isWithin 0x1F466 0x1F469 code then .relative
  else if controlRuns.holds code then .control
  else if extendingRuns.holds code then .extending
  else if spacingRuns.holds code then .spacing
  else if leadingRuns.holds code then .leading
  else if personRuns.holds code then .person
  else if tiedRuns.holds code then .tied
  else (hangulRole? code).getD .other

/-- What the characters in front of a place say about a border there. -/
structure Before where
  last : Role
  /-- An odd number of letters of flags stands directly in front. -/
  oddRegions : Bool
  /-- A person stands in front, with nothing but marks behind it. -/
  onPerson : Bool
  deriving DecidableEq, Repr

namespace Before

/-- Behind the first character of a text. -/
def start (role : Role) : Before :=
  -- The letter of a flag that stands first is already one of a pair.
  ⟨role, role == .region, role == .person || role == .relative⟩

/-- Behind one more character. -/
def step (before : Before) (role : Role) : Before :=
  -- Letters of flags pair up from the left, so only their number since the last other character counts.
  ⟨role, role == .region && !before.oddRegions,
    role == .person || role == .relative || (role == .extending && before.onPerson)⟩

/-- A character belongs to the cluster in front of it. -/
def joins (before : Before) (role : Role) : Bool :=
  match before.last, role with
  -- A line break of two characters stays together, and all other breaks stand alone.
  | .carriageReturn, .lineFeed => true
  | .carriageReturn, _ | .lineFeed, _ | .control, _ => false
  | _, .carriageReturn | _, .lineFeed | _, .control => false
  -- The parts of a syllable join in the order in which they are written.
  | .initialPart, .initialPart | .initialPart, .vowelPart => true
  | .initialPart, .openSyllable | .initialPart, .closedSyllable => true
  | .openSyllable, .vowelPart | .openSyllable, .finalPart => true
  | .vowelPart, .vowelPart | .vowelPart, .finalPart => true
  | .closedSyllable, .finalPart | .finalPart, .finalPart => true
  -- Marks and joiners never begin a cluster, whatever they follow.
  | _, .extending | _, .joiner | _, .spacing => true
  | .leading, _ => true
  -- A tone colours the person in front, and a joiner ties pictures to it.
  | _, .skinTone => before.onPerson
  | .joiner, .tied | .joiner, .relative => true
  -- The second letter of a flag joins the first one, but the third begins a new flag.
  | .region, .region => before.oddRegions
  | _, _ => false

end Before

/-- What is left of the current cluster, and the clusters behind it. -/
def goOn (before : Before) : List Char → List Char × List (List Char)
  | [] => ([], [])
  | c :: rest =>
    let role := roleOf c.toNat
    -- The rest is split first; a border in front of this character only says where its cluster goes.
    let (own, others) := goOn (before.step role) rest
    if before.joins role then (c :: own, others) else ([], (c :: own) :: others)

/-- The clusters of a text. -/
def split : List Char → List (List Char)
  | [] => []
  | c :: rest =>
    let (own, others) := goOn (.start (roleOf c.toNat)) rest
    (c :: own) :: others

end UdsCatalog.Text.Cluster
