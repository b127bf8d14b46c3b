import UdsCatalog.Toml.Basic
import UdsCatalog.Toml.Moment
import UdsCatalog.Toml.Numeral
import UdsCatalog.Toml.Quotes

/-! Reading TOML documents line by line. A document that breaks a rule anywhere is no document. -/

namespace UdsCatalog.Toml

open Text (Reads past? firstOf)

/-- Containers stand in fewer than so many others, and a key has fewer than so many parts. -/
def depthLimit : Nat := 80

/-- A text without the gap in front. -/
def pastGap (chars : List Char) : List Char := chars.dropWhile isGap

/-- A text without the comment in front. -/
def pastComment : List Char → List Char
  -- Control characters are not allowed even here, so they are left for the next reader to refuse.
  | '#' :: rest => rest.dropWhile fun c => !isControl c && c != '\n'
  | chars => chars

/-- The text behind the rest of a line on which nothing more stands. -/
def pastLineEnd? (chars : List Char) : Option (List Char) :=
  match pastComment (pastGap chars) with
  -- The last line need not be ended.
  | [] => some []
  | rest => pastNewline? rest

/-- A text without the gaps, comments and ends of lines in front. The number bounds the lines. -/
def pastLines : Nat → List Char → List Char
  | 0, chars => chars
  | room + 1, chars =>
    match pastNewline? (pastComment (pastGap chars)) with
    | some rest => pastLines room rest
    -- A comment that no end of line follows is left standing.
    | none => pastGap chars

/-- The characters of names without quotes. -/
def isKeyChar (c : Char) : Bool := c.isAlphanum || c == '_' || c == '-'

/-- Reads a name without quotes. -/
def readBareKey (chars : List Char) : Option (String × List Char) :=
  let name := chars.takeWhile isKeyChar
  if name.isEmpty then none else some (String.ofList name, chars.dropWhile isKeyChar)

/-- Reads names with dots between them: the way to a table, and the name in it. The number bounds how
many there are. -/
def readKeyWithin : Nat → Reads (List String × String)
  | 0, _ => none
  | room + 1, chars => do
    let (name, rest) ← firstOf readShortText readBareKey (pastGap chars)
    match pastGap rest with
    -- Only the last name is the key; those in front of it are the way to its table.
    | '.' :: rest =>
      let ((path, key), rest) ← readKeyWithin room rest
      return ((name :: path, key), rest)
    | rest => return (([], name), rest)

/-- Reads names with dots between them. -/
def readKey : Reads (List String × String) := readKeyWithin (depthLimit - 1)

/-- Reads a value of one kind. -/
def readAs {α : Type} (wrap : α → Toml) (read : Reads α) : Reads Toml := fun chars =>
  (read chars).map fun (a, rest) => (wrap a, rest)

/-- Reads a truth value. -/
def readBool (chars : List Char) : Option (Bool × List Char) :=
  match past? ['t', 'r', 'u', 'e'] chars with
  | some rest => some (true, rest)
  | none => (past? ['f', 'a', 'l', 's', 'e'] chars).map fun rest => (false, rest)

/-- Reads a value that holds no others. -/
def readScalar : Reads Toml :=
  -- Dates come before numbers, since they begin with digits, and fractions before integers.
  firstOf (readAs .text readText)
    (firstOf (readAs .bool readBool)
      (firstOf (readAs .moment readMoment)
        (firstOf (readAs .float readFloat) (readAs .int readInt))))

/-- Reads the values of a list up to its closing bracket. A comma may follow the last one. -/
def readItems (value : Reads Toml) : Nat → Reads (List Toml)
  | 0, _ => none
  | room + 1, chars =>
    -- A list may go over several lines, unlike a table between braces.
    match pastLines chars.length chars with
    -- This is the end of an empty list, or of one whose last value has a comma behind it.
    | ']' :: rest => some ([], rest)
    | rest => do
      let (first, rest) ← value rest
      match pastLines rest.length rest with
      | ']' :: rest => return ([first], rest)
      | ',' :: rest =>
        let (more, rest) ← readItems value room rest
        return (first :: more, rest)
      | _ => none

/-- Reads a name and its value. -/
def readPair (value : Reads Toml) (chars : List Char) :
    Option ((List String × String × Toml) × List Char) := do
  let ((path, key), rest) ← readKey chars
  let (given, rest) ← value (pastGap (← past? ['='] rest))
  return ((path, key, given), rest)

/-- Reads names and values up to the closing brace of a table on one line. -/
def readPairs (value : Reads Toml) : Nat → Fields → Reads Fields
  | 0, _, _ => none
  | room + 1, fields, chars => do
    let ((path, key, given), rest) ← readPair value chars
    -- A repeated name is found as soon as it is assigned.
    let fields ← assign path key given fields
    match pastGap rest with
    | '}' :: rest => return (fields, rest)
    -- No comma may follow the last pair, so another one is read in any case.
    | ',' :: rest => readPairs value room fields rest
    | _ => none

/-- Reads a table on one line behind its opening brace. -/
def readInline (value : Reads Toml) (chars : List Char) : Option (Toml × List Char) :=
  match pastGap chars with
  | '}' :: rest => some (.table [], rest)
  -- Behind the brace the fields are complete: no later line can add to them.
  | _ => (readPairs value chars.length [] chars).map fun (fields, rest) => (.table (valuesOf fields), rest)

/-- Reads a value in which lists and tables stand in one another at most so many times. -/
def readValueWithin : Nat → Reads Toml
  -- A bracket or brace at this depth is read as a scalar, which it is not.
  | 0, chars => readScalar chars
  | depth + 1, chars =>
    match chars with
    | '[' :: rest => readAs .list (readItems (readValueWithin depth) rest.length) rest
    | '{' :: rest => readInline (readValueWithin depth) rest
    | _ => readScalar chars

/-- Reads a value. -/
def readValue : Reads Toml := readValueWithin (depthLimit - 1)

/-- A document of which some lines have been read. -/
structure Draft where
  fields : Fields
  /-- The names on the way to the table that is open. -/
  table : List String

namespace Draft

/-- Puts a value into the table that is open. -/
def set (draft : Draft) (path : List String) (key : String) (value : Toml) : Option Draft :=
  -- The open table is found again by its path, the dots of the key then go on from there.
  (within false (fun _ fields => assign path key value fields) false draft.table draft.fields).map
    fun fields => { draft with fields := fields }

/-- Reads the line that opens a table, up to its end. -/
def readHeader (draft : Draft) (openIt : List String → String → Fields → Option Fields)
    (close chars : List Char) : Option (Draft × List Char) := do
  let ((path, key), rest) ← readKey chars
  let rest ← pastLineEnd? (← past? close rest)
  -- The lines that follow go into this table.
  return (⟨← openIt path key draft.fields, path ++ [key]⟩, rest)

/-- Reads one line without the gap in front. -/
def readLine (draft : Draft) (chars : List Char) : Option (Draft × List Char) :=
  match chars with
  | '[' :: '[' :: rest => draft.readHeader openNext [']', ']'] rest
  | '[' :: rest => draft.readHeader openTable [']'] rest
  | _ =>
    -- An empty line, or one with a comment only, changes nothing.
    match pastLineEnd? chars with
    | some rest => some (draft, rest)
    | none => do
      let ((path, key, given), rest) ← readPair readValue chars
      let rest ← pastLineEnd? rest
      return (← draft.set path key given, rest)

/-- Reads lines up to the end of the text. The number bounds how many there are. -/
def readLines : Nat → Draft → List Char → Option Draft
  | _, draft, [] => some draft
  | 0, _, _ :: _ => none
  | room + 1, draft, c :: chars => do
    -- Each line takes at least its end, so the length is room enough.
    let (draft, rest) ← draft.readLine (pastGap (c :: chars))
    readLines room draft rest

end Draft

/-- The mark that tells the order of bytes, which a text may begin with. -/
def byteOrderMark : Char := Char.ofNat 0xFEFF

/-- A text without the mark of the order of bytes in front. -/
def pastMark (chars : List Char) : List Char := (past? [byteOrderMark] chars).getD chars

/-- Reads a document: the names and values of its outermost table. -/
def parse? (text : String) : Option (List (String × Toml)) :=
  let chars := pastMark text.toList
  (Draft.readLines chars.length ⟨[], []⟩ chars).map fun draft => valuesOf draft.fields

end UdsCatalog.Toml
