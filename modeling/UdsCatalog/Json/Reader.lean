import UdsCatalog.Json.Numeral
import UdsCatalog.Json.Literal

/-!
Documents from text. The reader takes one character after the other and keeps the open arrays and
objects on a stack, so a fault is placed at the character that shows it.
-/

namespace UdsCatalog.Json

/-- An array or object that is still open. -/
inductive Open where
  /-- The items before the current one, in reverse order. -/
  | list (done : List Json)
  /-- The fields before the current one, and its name. -/
  | fields (done : List (String × Json)) (name : String)

/-- What the reader expects next. -/
inductive Task where
  | value
  /-- Behind an opening bracket: an item or the end. -/
  | firstItem
  /-- Behind a comma in an array. -/
  | nextItem
  /-- Behind an opening brace: a name or the end. -/
  | firstName
  /-- Behind a comma in an object. -/
  | nextName
  | name (literal : Literal)
  | colon (name : String)
  | text (literal : Literal)
  | number (numeral : Numeral)
  /-- Inside `null`, `true` or `false`: the letters left, and the value. -/
  | word (left : List Char) (meaning : Json)
  /-- Behind a whole value. -/
  | behind (value : Json)

/-- The reader between two characters. The fields of the innermost object wait in `fields` while its
next name is read. -/
structure Reader where
  task : Task
  stack : List Open
  fields : List (String × Json)

/-- A complaint, placed behind the given number of bytes of the current character. -/
structure Objection where
  complaint : Complaint
  bytes : Nat

namespace Reader

/-- The reader before the first character. -/
def start : Reader := ⟨.value, [], []⟩

/-- Arrays and objects nest at most this deep. -/
def deepest : Nat := 127

/-- The characters that may stand between the parts of a document. -/
def isGap (c : Char) : Bool := c == ' ' || c == '\n' || c == '\t' || c == '\r'

/-- Objects to the current character. -/
def object {α : Type} (complaint : Complaint) : Except Objection α := .error ⟨complaint, 1⟩

/-- Opens an array or object, if there is room for one more. -/
def enter (reader : Reader) (task : Task) : Except Objection Reader :=
  -- The bracket itself is not on the stack yet, so an empty array counts as well.
  if reader.stack.length < deepest then .ok { reader with task } else object .tooDeep

/-- The first character of a value. -/
def beginValue (reader : Reader) (c : Char) : Except Objection Reader :=
  if c == '"' then .ok { reader with task := .text .start }
  else if c == '[' then reader.enter .firstItem
  else if c == '\x7b' then reader.enter .firstName
  else if c == '-' then .ok { reader with task := .number .negated }
  else if c == 'n' then .ok { reader with task := .word ['u', 'l', 'l'] .null }
  else if c == 't' then .ok { reader with task := .word ['r', 'u', 'e'] (.bool true) }
  else if c == 'f' then .ok { reader with task := .word ['a', 'l', 's', 'e'] (.bool false) }
  else
    match Numeral.decimalDigit? c with
    | some digit => .ok { reader with task := .number (.ofDigit false digit) }
    | none => object .expectedValue

/-- The character behind a whole value, which is no gap. -/
def continueBehind (reader : Reader) (value : Json) (c : Char) : Except Objection Reader :=
  match reader.stack with
  | [] => object .trailingCharacters
  -- The finished value belongs to the innermost open array or object.
  | .list done :: outer =>
    if c == ',' then .ok { reader with task := .nextItem, stack := .list (value :: done) :: outer }
    else if c == ']' then
      .ok { reader with task := .behind (.array (value :: done).reverse), stack := outer }
    else object .expectedListEnd
  | .fields done name :: outer =>
    if c == ',' then
      -- The fields leave the stack until the next name is known.
      .ok { reader with task := .nextName, stack := outer, fields := insertField name value done }
    else if c == '\x7d' then
      .ok { reader with task := .behind (.object (insertField name value done)), stack := outer }
    else object .expectedObjectEnd

/-- A character behind a whole value. -/
def stepBehind (reader : Reader) (value : Json) (c : Char) : Except Objection Reader :=
  if isGap c then .ok { reader with task := .behind value } else reader.continueBehind value c

/-- Reads one more character. -/
def step (reader : Reader) (c : Char) : Except Objection Reader :=
  match reader.task with
  | .text literal =>
    match literal.step c with
    | .goOn literal => .ok { reader with task := .text literal }
    | .close content => .ok { reader with task := .behind (.text content) }
    | .wrong complaint bytes => .error ⟨complaint, bytes⟩
  | .name literal =>
    match literal.step c with
    | .goOn literal => .ok { reader with task := .name literal }
    | .close content => .ok { reader with task := .colon content }
    | .wrong complaint bytes => .error ⟨complaint, bytes⟩
  | .number numeral =>
    match numeral.step c with
    | .goOn numeral => .ok { reader with task := .number numeral }
    | .wrong complaint => object complaint
    -- A number is only known to end when the next character is there, which then stands behind it.
    | .stop =>
      match numeral.finish with
      | .ok value => reader.stepBehind value c
      | .error complaint => .error ⟨complaint, 0⟩
  -- Behind the last letter the word is a whole value.
  | .word [] meaning => reader.stepBehind meaning c
  | .word (expected :: left) meaning =>
    if c == expected then .ok { reader with task := .word left meaning } else object .expectedWord
  | .behind value => reader.stepBehind value c
  | .value => if isGap c then .ok reader else reader.beginValue c
  | .firstItem =>
    if isGap c then .ok reader
    -- An empty array never gets onto the stack.
    else if c == ']' then .ok { reader with task := .behind (.array []) }
    else { reader with stack := .list [] :: reader.stack }.beginValue c
  | .nextItem =>
    if isGap c then .ok reader
    -- A comma promises another item.
    else if c == ']' then object .trailingComma
    else reader.beginValue c
  | .firstName =>
    if isGap c then .ok reader
    else if c == '\x7d' then .ok { reader with task := .behind (.object []) }
    else if c == '"' then .ok { reader with task := .name .start, fields := [] }
    else object .expectedKey
  | .nextName =>
    if isGap c then .ok reader
    else if c == '"' then .ok { reader with task := .name .start }
    else if c == '\x7d' then object .trailingComma
    else object .expectedKey
  | .colon name =>
    if isGap c then .ok reader
    else if c == ':' then
      -- With its name the field goes back onto the stack, and its value is read next.
      .ok { task := .value, stack := .fields reader.fields name :: reader.stack, fields := [] }
    else object .expectedColon

/-- The complaint about a text that ends behind a whole value. -/
def endBehind (reader : Reader) (value : Json) : Except Complaint Json :=
  match reader.stack with
  | [] => .ok value
  | .list _ :: _ => .error .endInList
  | .fields _ _ :: _ => .error .endInObject

/-- The document, if the text may end here. -/
def finish (reader : Reader) : Except Complaint Json :=
  match reader.task with
  | .behind value => reader.endBehind value
  -- A number may be the last thing of a text, where no character ends it.
  | .number numeral => numeral.finish.bind reader.endBehind
  | .word [] meaning => reader.endBehind meaning
  | .word (_ :: _) _ => .error .endInValue
  | .text _ | .name _ => .error .endInText
  | .value | .nextItem | .nextName => .error .endInValue
  | .firstItem => .error .endInList
  | .firstName | .colon _ => .error .endInObject

/-- Reads the rest of a text from a place in it. -/
def run (reader : Reader) (position : Position) : List Char → Except Fault Json
  | [] =>
    match reader.finish with
    | .ok value => .ok value
    | .error complaint => .error ⟨complaint, position⟩
  | c :: rest =>
    match reader.step c with
    | .ok reader => reader.run (position.past c) rest
    -- The complaint says how much of the current character still lies in front of it.
    | .error objection => .error ⟨objection.complaint, position.within c objection.bytes⟩

end Reader

/-- Reads the text of a document. -/
def parse (text : String) : Except Fault Json := Reader.start.run {} text.toList

end UdsCatalog.Json
