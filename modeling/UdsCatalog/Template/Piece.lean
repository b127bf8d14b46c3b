import UdsCatalog.Template.Grammar

/-! The pieces of a template: plain text, tags, comments and text that is kept as it stands. -/

namespace UdsCatalog.Template

open Text (Reads past? firstOf)

/-- Dashes at the ends of a tag: blanks of the text in front of it, or behind it, fall away. -/
structure Marks where
  left : Bool
  right : Bool
  deriving DecidableEq, Repr

/-- What a tag says. -/
inductive Tag where
  | comment
  | output (value : Expression)
  | assign (isGlobal : Bool) (name : String) (value : Expression)
  | include (names : List String) (optional : Bool)
  | extends (parent : String)
  | leave
  | next
  | each (key : Option String) (value : String) (container : Expression)
  | endEach
  | choose (condition : Expression)
  | orChoose (condition : Expression)
  | otherwise
  | endChoose
  | block (name : String)
  | endBlock
  deriving Repr

/-- A piece of a template. -/
inductive Piece where
  | text (text : String)
  | verbatim (opening : Marks) (text : List Char) (closing : Marks)
  | tag (marks : Marks) (tag : Tag)
  deriving Repr

/-- Reads an opening or closing sign with an optional dash on the inner side. -/
def pastDash (chars : List Char) : Bool × List Char :=
  match chars with
  | '-' :: rest => (true, rest)
  | _ => (false, chars)

/-- Reads the closing sign of a tag, behind a gap. -/
def readClosing (sign : List Char) (chars : List Char) : Option (Bool × List Char) :=
  let rest := pastGap chars
  -- A dash belongs to the sign, so the longer sign is tried first.
  match past? ('-' :: sign) rest with
  | some behind => some (true, behind)
  | none => (past? sign rest).map fun behind => (false, behind)

/-- The closing sign of tags. -/
def tagEnd : List Char := ['%', '\x7d']

/-- The closing sign of values. -/
def valueEnd : List Char := ['\x7d', '\x7d']

/-- Reads a further name of a template behind a comma. -/
def readFurtherName (chars : List Char) : Option (String × List Char) := do
  let ((_, name), rest) ← readQuoted (pastGap (← past? [','] chars))
  return (name, rest)

/-- Reads the name of a template, or several between brackets. -/
def readNames (chars : List Char) : Option (List String × List Char) :=
  match readQuoted chars with
  | some ((_, name), rest) => some ([name], rest)
  -- Between brackets there may be no name at all.
  | none => do
    let rest := pastGap (← past? ['['] chars)
    match readQuoted rest with
    | none => return ([], ← past? [']'] rest)
    | some ((_, first), rest) =>
      let (more, rest) := readMany readFurtherName rest.length rest
      let rest := pastGap rest
      let rest := (past? [','] rest).getD rest
      return (first :: more, ← past? [']'] (pastGap rest))

/-- Reads the words that allow included templates to be missing. -/
def readOptional (chars : List Char) : Bool × List Char :=
  -- Both words must be there, or neither is read.
  let words : Option (List Char) := do
    past? "missing".toList (pastGap (← past? "ignore".toList (pastGap chars)))
  match words with
  | some rest => (true, rest)
  | none => (false, chars)

/-- Reads a tag that includes templates. -/
def readInclude (chars : List Char) : Option (Tag × List Char) := do
  let (names, rest) ← readNames (← pastKeyword? "include" chars)
  let (optional, rest) := readOptional rest
  return (.include names optional, rest)

/-- Reads a tag that gives a value a name. -/
def readAssign (word : String) (isGlobal : Bool) (chars : List Char) : Option (Tag × List Char) := do
  let (name, rest) ← readName (← pastKeyword? word chars)
  let rest ← past? ['='] (pastGap rest)
  -- Anything that can be shown can have a name.
  let (value, rest) ← readValue (pastGap rest)
  return (.assign isGlobal name value, rest)

/-- Reads a tag that begins a loop. The comma stands directly behind the first name. -/
def readEach (chars : List Char) : Option (Tag × List Char) := do
  let (first, rest) ← readName (← pastKeyword? "for" chars)
  -- With two names the first one is that of the key.
  let (names, rest) := match readFurther rest with
    | some (second, rest) => ((some first, second), rest)
    | none => ((none, first), rest)
  let rest ← pastKeyword? "in" (← pastSomeGap? rest)
  let (container, rest) ← readContainer rest
  return (.each names.1 names.2 container, rest)
where
  /-- A second name behind a comma. -/
  readFurther (chars : List Char) : Option (String × List Char) := do
    readName (pastGap (← past? [','] chars))

/-- Reads a tag that tests a condition. -/
def readConditional (word : String) (tag : Expression → Tag) (chars : List Char) :
    Option (Tag × List Char) := do
  let (condition, rest) ← readTest (← pastKeyword? word chars)
  return (tag condition, rest)

/-- Reads a tag of a single word. -/
def readPlain (word : String) (tag : Tag) (chars : List Char) : Option (Tag × List Char) :=
  (past? word.toList chars).map fun rest => (tag, rest)

/-- Reads a tag that begins a block. -/
def readBlock (chars : List Char) : Option (Tag × List Char) := do
  let (name, rest) ← readName (← pastKeyword? "block" chars)
  return (.block name, rest)

/-- Reads a tag that ends a block; the name may be repeated. -/
def readEndBlock (chars : List Char) : Option (Tag × List Char) := do
  let rest ← past? "endblock".toList chars
  match readName (pastGap rest) with
  -- Whether it is the name of the block is not asked.
  | some (_, rest) => return (.endBlock, rest)
  | none => return (.endBlock, rest)

/-- Reads a tag that names the template to extend. -/
def readExtends (chars : List Char) : Option (Tag × List Char) := do
  let ((_, parent), rest) ← readQuoted (← pastKeyword? "extends" chars)
  return (.extends parent, rest)

/-- The kinds of tags that may stand anywhere, in the order in which they are tried. -/
def tagKinds : List (Reads Tag) :=
  -- Each kind reads its own words, so at most one of them gets past the first.
  [readInclude, readAssign "set" false, readAssign "set_global" true, readBlock, readEndBlock,
    readEach, readPlain "endfor" .endEach, readConditional "if" .choose,
    readConditional "elif" .orChoose, readPlain "else" .otherwise, readPlain "endif" .endChoose,
    readPlain "break" .leave, readPlain "continue" .next]

/-- Reads a tag of one of some kinds behind its opening sign. -/
def readTag (kinds : List (Reads Tag)) (chars : List Char) : Option (Piece × List Char) :=
  let (left, rest) := pastDash chars
  let rest := pastGap rest
  -- A kind counts only with its closing sign, and the next is tried otherwise.
  kinds.findSome? fun kind => do
    let (tag, rest) ← kind rest
    let (right, rest) ← readClosing tagEnd rest
    return (.tag ⟨left, right⟩ tag, rest)

/-- Reads a tag of one word with its marks. -/
def readWordTag (word : String) (chars : List Char) : Option (Marks × List Char) := do
  let (left, rest) := pastDash (← past? ['\x7b', '%'] chars)
  let rest ← past? word.toList (pastGap rest)
  let (right, rest) ← readClosing tagEnd rest
  return (⟨left, right⟩, rest)

/-- The text up to the tag that ends it. -/
def untilEndRaw : List Char → Option (List Char × Marks × List Char)
  | [] => none
  | c :: rest =>
    -- Nothing in between is read as a tag, whatever it looks like.
    match readWordTag "endraw" (c :: rest) with
    | some (marks, behind) => some ([], marks, behind)
    | none =>
      match untilEndRaw rest with
      | some (text, marks, behind) => some (c :: text, marks, behind)
      | none => none

/-- The text behind the sign that ends a comment, and whether the sign has a dash. -/
def pastComment : List Char → Option (Bool × List Char)
  | [] => none
  -- The dash is looked for first, or it would become a part of the comment.
  | '-' :: '#' :: '\x7d' :: rest => some (true, rest)
  | '#' :: '\x7d' :: rest => some (false, rest)
  | _ :: rest => pastComment rest

/-- Reads a comment behind its opening sign. Something must stand in it, and a dash in front is a part of
the opening sign. -/
def readComment (chars : List Char) : Option (Piece × List Char) :=
  let (left, rest) := pastDash chars
  -- Such a comment makes the whole text no template.
  if ['#', '\x7d'].isPrefixOf rest || ['-', '#', '\x7d'].isPrefixOf rest then none
  else (pastComment rest).map fun (right, behind) => (.tag ⟨left, right⟩ .comment, behind)

/-- Plain text up to the next opening sign. -/
def plainText : List Char → List Char × List Char
  | [] => ([], [])
  | [c] => ([c], [])
  | c :: d :: rest =>
    -- An opening brace alone is plain text.
    if c == '\x7b' && (d == '\x7b' || d == '%' || d == '#') then ([], c :: d :: rest)
    else
      let (text, behind) := plainText (d :: rest)
      (c :: text, behind)

/-- Reads the next piece of a template. -/
def readPiece (chars : List Char) : Option (Piece × List Char) :=
  match chars with
  | '\x7b' :: '\x7b' :: rest => do
    let (left, rest) := pastDash rest
    let (value, rest) ← readValue (pastGap rest)
    let (right, rest) ← readClosing valueEnd rest
    return (.tag ⟨left, right⟩ (.output value), rest)
  | '\x7b' :: '#' :: rest => readComment rest
  | '\x7b' :: '%' :: rest =>
    -- Text to be kept must be found before its content is taken for tags.
    match readWordTag "raw" chars with
    | some (opening, behind) => do
      let (text, closing, behind) ← untilEndRaw behind
      return (.verbatim opening text closing, behind)
    | none => readTag tagKinds rest
  | _ =>
    match plainText chars with
    -- A piece takes something, so that reading comes to an end.
    | ([], _) => none
    | (text, rest) => some (.text (String.ofList text), rest)

/-- Reads the pieces of a template to its end. The number bounds how many there are. -/
def readPieces : Nat → List Char → Option (List Piece)
  | _, [] => some []
  -- Not reached, as every piece takes a character.
  | 0, _ :: _ => none
  | room + 1, c :: chars => do
    let (piece, rest) ← readPiece (c :: chars)
    return piece :: (← readPieces room rest)

/-- The text behind the comments at its start. The number bounds how many there are. -/
def pastComments : Nat → List Char → List Char
  | room + 1, '\x7b' :: '#' :: rest =>
    match readComment rest with
    | some (_, behind) => pastComments room behind
    -- A comment that does not end is left to the reader of pieces, which refuses it.
    | none => '\x7b' :: '#' :: rest
  | _, chars => chars

/-- Reads the tag that names the template to extend, behind a gap. -/
def readParent (chars : List Char) : Option (Piece × List Char) := do
  readTag [readExtends] (← past? ['\x7b', '%'] (pastGap chars))

/-- The pieces of a template; none when some part of it is no piece. Comments at the start trim nothing and
are dropped, and only there another template may be extended. -/
def Piece.ofText? (text : String) : Option (List Piece) :=
  let chars := pastComments text.length text.toList
  -- Only here a parent can be named. Further down the same tag is no piece.
  match readParent chars with
  | some (parent, rest) => (readPieces rest.length rest).map (parent :: ·)
  | none => readPieces chars.length chars

end UdsCatalog.Template
