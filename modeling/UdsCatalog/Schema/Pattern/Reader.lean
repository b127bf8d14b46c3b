import UdsCatalog.Schema.Pattern.Brackets
import UdsCatalog.Schema.Pattern.Plan
import UdsCatalog.Schema.Pattern.Shorthand

/-!
Patterns from text: alternatives of pieces in a row, each an atom with an optional count. Groups stand in
one another only so deep.
-/

namespace UdsCatalog.Schema.Pattern

/-- How what follows is to be read. -/
structure Options where
  ignoreCase : Bool := false
  /-- The marks for the ends of the text also stand for the ends of lines. -/
  lines : Bool := false
  /-- The dot stands for line feeds too. -/
  dotAll : Bool := false
  /-- Blanks and comments stand for nothing. -/
  free : Bool := false
  /-- Counts prefer few rounds. -/
  few : Bool := false
  deriving DecidableEq, Repr

/-- What is known while a pattern is read. -/
structure Notes where
  options : Options := {}
  /-- How many groups have begun. -/
  groups : Nat := 0
  names : List (String × Nat) := []
  /-- The groups whose matches are asked for. -/
  asked : List Nat := []
  /-- Some group is asked for by a number that no quotes surround. -/
  byNumber : Bool := false
  /-- The bytes of the whole text. -/
  size : Nat
  deriving Repr

/-- A part of a pattern. -/
structure Piece where
  pattern : Pattern
  /-- Places and parts without content cannot be counted. -/
  countable : Bool := true
  /-- The alternatives of a choice. -/
  branches : List Pattern := []
  deriving Repr

/-- The part without content. -/
def Piece.none : Piece := { pattern := .nothing, countable := false }

/-- A place, which takes nothing. -/
def Piece.place (pattern : Pattern) : Piece := { pattern, countable := false }

/-- A choice between alternatives. -/
def Piece.choice (first : Pattern) (others : List Pattern) : Piece :=
  -- The alternatives are kept apart for conditions and looks behind.
  { pattern := alternatives first others, branches := first :: others }
where
  /-- The first of several patterns that matches. -/
  alternatives (first : Pattern) : List Pattern → Pattern
    | [] => first
    | second :: rest => .either first (alternatives second rest)

/-- Reads something from the front of a text with what is known. -/
abbrev Reading (α : Type) := Notes → List Char → Option (α × Notes × List Char)

/-- A character as it is to be read. -/
def Notes.literal (notes : Notes) (c : Char) : Pattern :=
  .one (OpenSet.cased notes.options.ignoreCase (.single c))

/-- Asks for the match of a group, which must have begun. -/
def Notes.ask? (notes : Notes) (group : Nat) : Option Notes :=
  -- A group may refer to itself, since it has begun by then.
  if group ≤ notes.groups then some { notes with asked := group :: notes.asked } else none

/-- Asks for the match of a group by its number. -/
def Notes.askNumber? (notes : Notes) (group : Nat) : Option Notes :=
  -- A group takes two parentheses, so a text of this size cannot have more.
  if group < notes.size / 2 then { notes with byNumber := true }.ask? group else none

/-- The number of a group by its name, which may be the number itself. -/
def Notes.groupOf? (notes : Notes) (name : String) : Option Nat :=
  -- The latest of several groups of one name is on top.
  (notes.names.lookup name).orElse fun _ =>
    match readCount name.toList with
    | some (number, []) => some number
    | _ => none

/-- Begins the next group. -/
def Notes.begin (notes : Notes) (name : Option String) : Notes :=
  let number := notes.groups + 1
  { notes with
    groups := number
    names := (name.toList.map fun name => (name, number)) ++ notes.names }

/-- The pattern of an escape. -/
def ofEscape? (notes : Notes) : Escape → Option (Pattern × Notes)
  | .char c => some (notes.literal c, notes)
  | .hexDigits inverted =>
    some (.one (if inverted then .other .hexDigits else .hexDigits), notes)
  | .property set inverted =>
    let set := OpenSet.cased notes.options.ignoreCase set
    some (.one (if inverted then .other set else set), notes)
  | .edge wanted => some (.atEdge wanted, notes)
  | .start => some (.atStart, notes)
  | .stop => some (.atEnd, notes)
  -- Settled, so that no part around it is matched at once.
  | .searchStart => some (.settled .atStart, notes)
  | .keep => some (.settled .nothing, notes)
  | .number index => (notes.askNumber? index).map fun notes => (.again index, notes)
  | .name name => do
    let index ← notes.groupOf? name
    return (.again index, ← notes.ask? index)

/-- Reads the smallest parts of a pattern. What cannot begin one is left alone. -/
def readAtom (readGroup : Reading Piece) : Reading Piece := fun notes chars => do
  let chars ← pastFiller? notes.options.free chars
  match chars with
  | [] => return (.none, notes, [])
  | c :: rest =>
    match c with
    | '.' => return ({ pattern := .one (if notes.options.dotAll then .full else .inLine) }, notes, rest)
    | '^' => return (.place (if notes.options.lines then .atLineStart else .atStart), notes, rest)
    | '$' => return (.place (if notes.options.lines then .atLineEnd else .atEnd), notes, rest)
    | '(' => readGroup notes rest
    | '\\' =>
      let (escape, rest) ← readEscape rest
      let (pattern, notes) ← ofEscape? notes escape
      return ({ pattern }, notes, rest)
    -- These belong to whoever reads the atom. None of them is taken.
    | '+' | '*' | '?' | '|' | ')' => return (.none, notes, chars)
    | '[' =>
      let (set, rest) ← readBrackets notes.options.free notes.options.ignoreCase rest
      return ({ pattern := .one set }, notes, rest)
    -- Braces and closing brackets have no meaning where an atom begins.
    | c => return ({ pattern := notes.literal c }, notes, rest)

/-- A bound for rounds; the largest number that can be written is none. -/
def bound (most : Nat) : Option Nat := if most + 1 < 0x1_0000_0000_0000_0000 then some most else none

/-- Reads a count between braces behind the opening one. Either number may be missing. -/
def readBraces (free : Bool) (chars : List Char) : Option ((Nat × Option Nat) × List Char) := do
  let chars ← pastFiller? free chars
  -- A missing first number is zero.
  let (least, chars) ← match chars with
    | ',' :: _ => some (0, chars)
    | _ => readCount chars
  match ← pastFiller? free chars with
  -- One number is both bounds.
  | '\x7d' :: rest => return ((least, bound least), rest)
  | ',' :: rest =>
    let rest ← pastFiller? free rest
    let (most, rest) := match readCount rest with
      | some (most, rest) => (bound most, rest)
      | none => (none, rest)
    match ← pastFiller? free rest with
    | '\x7d' :: rest => return ((least, most), rest)
    | _ => none
  | _ => none

/-- Reads the count of an atom. Braces that hold no count are left alone. -/
def readRange (free : Bool) : List Char → Option ((Nat × Option Nat) × List Char)
  | '?' :: rest => some ((0, some 1), rest)
  | '*' :: rest => some ((0, none), rest)
  | '+' :: rest => some ((1, none), rest)
  | '\x7b' :: rest => readBraces free rest
  | _ => none

/-- Reads an atom and its count: how often, whether few rounds are preferred, and whether the choice is
final. -/
def readPiece (readGroup : Reading Piece) : Reading Piece := fun notes chars => do
  let (atom, notes, chars) ← readAtom readGroup notes chars
  let chars ← pastFiller? notes.options.free chars
  match readRange notes.options.free chars with
  | none => return (atom, notes, chars)
  | some ((least, most), rest) =>
    -- A count without something to count makes the pattern unreadable.
    if !atom.countable then none
    else
      let rest ← pastFiller? notes.options.free rest
      let (marked, rest) := match rest with
        | '?' :: rest => (true, rest)
        | rest => (false, rest)
      let counted := Pattern.repeated atom.pattern least most (marked != notes.options.few)
      match rest with
      -- The mark for a final choice may follow the one for few rounds.
      | '+' :: rest => return ({ pattern := .settled counted }, notes, rest)
      | rest => return ({ pattern := counted }, notes, rest)

/-- Appends a piece to those in front. -/
def Piece.append (front next : Piece) : Piece :=
  match front.pattern, next.pattern with
  | _, .nothing => front
  | .nothing, _ => next
  -- A row of two is no choice any more, so it has no alternatives.
  | _, _ => { pattern := .andThen front.pattern next.pattern }

/-- Reads pieces in a row; the number bounds how many there are. -/
def readRow (readGroup : Reading Piece) : Nat → Piece → Reading Piece
  | 0, row, notes, chars => some (row, notes, chars)
  | room + 1, row, notes, chars => do
    let (piece, notes, rest) ← readPiece readGroup notes chars
    -- No progress means that what follows begins no piece.
    if rest.length == chars.length then return (row, notes, chars)
    readRow readGroup room (row.append piece) notes rest

/-- Reads the alternatives behind the first one, each behind a bar, and leaves out fillers behind them;
the number bounds how many there are. -/
def readOthers (readGroup : Reading Piece) : Nat → Reading (List Pattern)
  | 0, _, _ => none
  | room + 1, notes, chars => do
    match ← pastFiller? notes.options.free chars with
    | '|' :: rest =>
      -- An alternative may be empty.
      let (next, notes, rest) ← readRow readGroup rest.length .none notes rest
      let (others, notes, rest) ← readOthers readGroup room notes rest
      return (next.pattern :: others, notes, rest)
    | rest => return ([], notes, rest)

/-- Reads a pattern up to a closing parenthesis or the end. A choice aside, groups with names may not be
asked for by bare numbers. -/
def readWhole (readGroup : Reading Piece) : Reading Piece := fun notes chars => do
  let (first, notes, rest) ← readRow readGroup chars.length .none notes chars
  match ← readOthers readGroup (rest.length + 1) notes rest with
  | ([], notes, rest) =>
    -- This is only asked of patterns that are no choice.
    if notes.byNumber && !notes.names.isEmpty then none else return (first, notes, rest)
  | (others, notes, rest) => return (.choice first.pattern others, notes, rest)

/-- Reads a closing parenthesis. -/
def pastClosing? (notes : Notes) (chars : List Char) : Option (List Char) := do
  match ← pastFiller? notes.options.free chars with
  | ')' :: rest => return rest
  | _ => none

/-- Reads a pattern and the closing parenthesis behind it. -/
def readClosed (inner : Reading Piece) : Reading Piece := fun notes chars => do
  let (piece, notes, rest) ← inner notes chars
  return (piece, notes, ← pastClosing? notes rest)

/-- Sets an option by its letter. -/
def Options.set? (options : Options) (value : Bool) : Char → Option Options
  | 'i' => some { options with ignoreCase := value }
  | 'm' => some { options with lines := value }
  | 's' => some { options with dotAll := value }
  | 'U' => some { options with few := value }
  | 'x' => some { options with free := value }
  -- It is always on and cannot be taken away.
  | 'u' => if value then some options else none
  | _ => none

/-- Reads the letters of options, a dash in front of those that are taken away. They hold for the rest
of the text, or for a pattern behind a colon. The size is that of the text behind the question mark; the
number bounds how many letters there are. -/
def readOptions (inner : Reading Piece) (before : Options) (size : Nat) : Nat → Bool → Reading Piece
  | 0, _, _, _ => none
  | room + 1, taken, notes, chars => do
    let chars ← pastFiller? notes.options.free chars
    let read := size - chars.length
    match chars with
    | ')' :: rest =>
      -- Parentheses without letters are refused, and so is a lone dash.
      if read == 0 || (taken && read == 1) then none else return (.none, notes, rest)
    | ':' :: rest =>
      if taken && read == 1 then none
      else
        match ← inner notes rest with
        -- Behind the parenthesis the options are those of before.
        | (piece, notes, ')' :: rest) => return (piece, { notes with options := before }, rest)
        | _ => none
    | '-' :: rest => if taken then none else readOptions inner before size room true notes rest
    | letter :: rest =>
      -- An option takes effect at once, also on the fillers between the letters.
      let options ← notes.options.set? (!taken) letter
      readOptions inner before size room taken { notes with options } rest
    | [] => none

/-- Reads what a condition asks for: the match of a group, or a pattern. -/
def readCondition (inner : Reading Piece) : Reading Piece := fun notes chars =>
  let named := do
    let (name, rest) ← readQuotedName chars
    let index ← notes.groupOf? name
    return ({ pattern := .again index }, ← notes.ask? index, rest)
  match chars with
  | [] => none
  | '<' :: _ | '\x27' :: _ => named
  | c :: _ =>
    -- The number stands bare here, without a backslash.
    if c.isDigit then do
      let (index, rest) ← readCount chars
      return ({ pattern := .again index }, ← notes.askNumber? index, rest)
    else inner notes chars

/-- Reads a condition and what it decides on: two alternatives, of which the second may be missing. A
condition that asks for the match of a group holds when the group has begun. -/
def readConditional (inner : Reading Piece) : Reading Piece := fun notes chars => do
  let (asked, notes, branches) ← readClosed (readCondition inner) notes chars
  let condition : Pattern := match asked.pattern with
    | .again index => .hasBegun index
    | pattern => pattern
  let (piece, notes, rest) ← inner notes branches
  let closed ← pastClosing? notes rest
  -- Nothing follows the condition, so it is a pattern of its own.
  if rest.length == branches.length then
    match asked.pattern with
    -- That is allowed for groups only.
    | .again _ => return ({ pattern := condition }, notes, closed)
    | _ => none
  else
    let (yes, no) : Pattern × Pattern := match piece.branches with
      -- All alternatives behind the first one together are the second branch.
      | yes :: no :: others => (yes, (Piece.choice no others).pattern)
      | _ => (piece.pattern, .nothing)
    match yes, no with
    | .nothing, .nothing => return ({ asked with pattern := condition }, notes, closed)
    | _, _ => return ({ pattern := .choose condition yes no }, notes, closed)

/-- Reads a group behind its opening parenthesis. -/
def readGroupWith (inner : Reading Piece) : Reading Piece := fun notes chars => do
  let closed := readClosed inner
  let remembered (name : Option String) (chars : List Char) := do
    -- Groups are numbered by their opening parentheses, hence before the content is read.
    let notes := notes.begin name
    let (piece, after, rest) ← closed notes chars
    return ({ pattern := .group notes.groups piece.pattern }, after, rest)
  let looking (look : Piece → Option Pattern) (chars : List Char) := do
    let (piece, notes, rest) ← closed notes chars
    return (.place (← look piece), notes, rest)
  let back (wanted : Bool) (piece : Piece) := lookBehind? wanted piece.pattern piece.branches
  match ← pastFiller? notes.options.free chars with
  | '?' :: '=' :: rest => looking (fun piece => some (.ahead true piece.pattern)) rest
  | '?' :: '!' :: rest => looking (fun piece => some (.ahead false piece.pattern)) rest
  -- Both looks behind start like a name, and must be tried in front of it.
  | '?' :: '<' :: '=' :: rest => looking (back true) rest
  | '?' :: '<' :: '!' :: rest => looking (back false) rest
  | '?' :: '<' :: rest | '?' :: 'P' :: '<' :: rest =>
    let (name, rest) ← readName '>' rest
    remembered (some name) rest
  | '?' :: 'P' :: '=' :: rest =>
    let (name, rest) ← readName ')' rest
    let index ← notes.groupOf? name
    return ({ pattern := .again index }, ← notes.ask? index, rest)
  | '?' :: '>' :: rest =>
    let (piece, notes, rest) ← closed notes rest
    return ({ pattern := .settled piece.pattern }, notes, rest)
  | '?' :: '(' :: rest => readConditional inner notes rest
  -- Whatever else follows the question mark must be letters.
  | '?' :: rest => readOptions inner notes.options rest.length (rest.length + 1) false notes rest
  | rest => remembered none rest

/-- Reads a group in which groups stand in one another at most so many times. -/
def readGroup : Nat → Reading Piece
  | 0 => fun _ _ => none
  | depth + 1 => readGroupWith (readWhole (readGroup depth))

/-- Groups stand in one another at most so many times. -/
def groupLimit : Nat := 63

/-- Reads a pattern; none when the text is no pattern. -/
def ofText? (text : String) : Option Pattern :=
  let chars := Shorthand.expand text.toList
  match readWhole (readGroup groupLimit) { size := (String.ofList chars).utf8ByteSize } chars with
  | some (piece, notes, []) =>
    -- Groups that nobody refers to do not count as memory.
    let remembering := piece.pattern.forget notes.asked
    if remembering.isRegular then if piece.pattern.isFeasible then some remembering else none
    -- Patterns with memory are planned part by part.
    else plan? notes.asked piece.pattern true .alone
  | _ => none

end UdsCatalog.Schema.Pattern
