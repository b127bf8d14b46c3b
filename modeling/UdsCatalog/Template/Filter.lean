import UdsCatalog.Template.Trouble
import UdsCatalog.Text.Snake

/-! Filters of templates: changes of one value into another. -/

namespace UdsCatalog.Template

/-- What stands behind a filter's name. -/
inductive FilterKind where
  /-- A change of texts that templates of this program bring along. -/
  | identifier (change : String → String)
  /-- A change of texts that every template knows. -/
  | textual (change : String → String)
  | length

/-- The filter of a name. -/
def FilterKind.ofName? (name : String) : Option FilterKind :=
  if name == "upper_snake" then some (.identifier Text.upperSnake)
  else if name == "lower_snake" then some (.identifier Text.lowerSnake)
  else if name == "capitalize_first" then some (.identifier Text.capitalizeFirst)
  -- The filters above are this program's own, and those below come with every template.
  else if name == "upper" then some (.textual Text.toCapitals)
  else if name == "lower" then some (.textual Text.toSmall)
  else if name == "length" then some .length
  else none

/-- Applies a filter to a value. -/
def FilterKind.apply (name : String) : FilterKind → Json → Except Trouble Json
  | .identifier change, .text value => .ok (.text (change value))
  -- The two families of filters complain in different words.
  | .identifier _, other => .error (.textExpected name other)
  | .textual change, .text value => .ok (.text (change value))
  | .textual _, other => .error (.textWanted name other)
  -- Characters are counted, and not bytes.
  | .length, .text value => .ok (.int value.length)
  | .length, .array items => .ok (.int items.length)
  | .length, .object fields => .ok (.int fields.length)
  | .length, _ => .error .noLength

/-- Applies the filter of a name. Its arguments are looked at, and have no effect. -/
def applyFilter (name : String) (arguments : List (Except Trouble Json)) (value : Json) :
    Except Trouble Json :=
  match FilterKind.ofName? name with
  | none => .error (.unknownFilter name)
  | some kind =>
    -- All arguments are evaluated, and the first that fails is told as the cause.
    match arguments.findSome? (fun | .error trouble => some trouble | .ok _ => none) with
    | some trouble => .error (.filterFailed name (some trouble))
    | none =>
      match kind.apply name value with
      | .ok changed => .ok changed
      | .error trouble => .error (.filterFailed name (some trouble))

end UdsCatalog.Template
