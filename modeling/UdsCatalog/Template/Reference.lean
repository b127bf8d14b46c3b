/-!
References to values. A reference is kept as it is written, and it is worked out as text: first the values
of the references between its brackets are put in place, then the brackets become points, and last the text
behind the first point is cut into steps. So brackets, points and quotes in the values of indices count as
well.
-/

namespace UdsCatalog.Template

/-- A reference to a value, as it is written: a name, and ways from there to the values inside. -/
structure Reference where
  text : String
  deriving DecidableEq, Repr

namespace Reference

/-- Digits that may stand between brackets by themselves, perhaps behind a plus sign: they fit 64 bits. -/
def isNumber (index : List Char) : Bool :=
  let digits := match index with
    | '+' :: digits => digits
    | digits => digits
  !digits.isEmpty && digits.all Char.isDigit &&
    digits.foldl (fun value c => value * 10 + (c.toNat - '0'.toNat)) 0 < 0x1_0000_0000_0000_0000

/-- Where the search for brackets stands. -/
inductive BracketState where
  | outside
  /-- Directly behind an opening bracket. -/
  | opened
  /-- Inside, with so many more brackets open that belong to the index; what was read is in reverse order. -/
  | inside (depth : Nat) (taken : List Char)

/-- The indices between brackets that have no quote in front. Brackets between quotes count too. -/
def indicesFrom : BracketState → List Char → List (List Char)
  | _, [] => []
  | .outside, c :: rest => indicesFrom (if c == '[' then .opened else .outside) rest
  -- A quote right behind the bracket means a key and no index.
  | .opened, c :: rest =>
    indicesFrom (if c == '"' || c == '\x27' then .outside else .inside 0 [c]) rest
  | .inside 0 taken, ']' :: rest => taken.reverse :: indicesFrom .outside rest
  -- This bracket closes one that belongs to the index.
  | .inside (depth + 1) taken, ']' :: rest => indicesFrom (.inside depth (']' :: taken)) rest
  | .inside depth taken, c :: rest =>
    indicesFrom (.inside (if c == '[' then depth + 1 else depth) (c :: taken)) rest

/-- The indices of a reference that are references themselves. -/
def indices (text : List Char) : List (List Char) :=
  -- Plain numbers are steps as they stand.
  (indicesFrom .outside text).filter fun index => !isNumber index

/-- Puts a text in the place of the first occurrence of a part, or at the end if there is none. -/
def putInPlace (part new : List Char) : List Char → List Char
  -- Without an occurrence the text goes to the end.
  | [] => new
  | c :: rest =>
    if part.isPrefixOf (c :: rest) then new ++ (c :: rest).drop part.length
    else c :: putInPlace part new rest

/-- Replaces a part wherever it occurs, from the left. The number tells how many characters of an
occurrence are still to be passed over. -/
def replaceFrom (part new : List Char) : Nat → List Char → List Char
  | _, [] => []
  | skip + 1, _ :: rest => replaceFrom part new skip rest
  | 0, c :: rest =>
    -- The occurrence is passed over whole, so that occurrences do not overlap.
    if part.isPrefixOf (c :: rest) then new ++ replaceFrom part new (part.length - 1) rest
    else c :: replaceFrom part new 0 rest

/-- What stands in the place of slashes, brackets and the quotes beside them, in the order in which it is
put there. -/
def signs : List (List Char × List Char) :=
  [(['/'], ['~', '1']), (['[', '\x27'], ['.', '"']), (['[', '"'], ['.', '"']), (['['], ['.']),
    (['\x27', ']'], ['"']), (['"', ']'], ['"']), ([']'], [])]

/-- A reference without slashes and brackets. -/
def pointed (text : List Char) : List Char :=
  -- Each replacement runs over what the ones before have left.
  signs.foldl (fun text (part, new) => replaceFrom part new 0 text) text

/-- A step that is not empty. -/
def stepOf (taken : List Char) : List String :=
  if taken.isEmpty then [] else [String.ofList taken.reverse]

/-- The steps of a text: each quote is a border, and each point while no quote of either kind is open. -/
def stepsFrom (inSingle inDouble : Bool) (taken : List Char) : List Char → List String
  | [] => stepOf taken
  | c :: rest =>
    -- A quote of one kind is a border even while one of the other kind is open.
    if c == '"' then stepOf taken ++ stepsFrom inSingle (!inDouble) [] rest
    else if c == '\x27' then stepOf taken ++ stepsFrom (!inSingle) inDouble [] rest
    else if c == '.' && !inSingle && !inDouble then stepOf taken ++ stepsFrom inSingle inDouble [] rest
    else stepsFrom inSingle inDouble (c :: taken) rest

/-- The steps behind the first point of a reference. -/
def steps (tail : String) : List String := stepsFrom false false [] tail.toList

/-- The name in front of the first point of a reference, and what stands behind it. -/
def rootAndTail (text : List Char) : String × String :=
  -- The point itself belongs to neither.
  (String.ofList (text.takeWhile (· != '.')), String.ofList ((text.dropWhile (· != '.')).drop 1))

end Reference

end UdsCatalog.Template
