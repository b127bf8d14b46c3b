/-! Places inside a document, as violations name them. -/

namespace UdsCatalog.Json

/-- A step into a value: to a field of an object, or to an item of an array. -/
inductive Step where
  | field (name : String)
  | item (index : Nat)
  deriving DecidableEq, Repr

/-- The two characters that the text of a place needs for itself are escaped. -/
def pointerChar (c : Char) : String :=
  -- The tilde introduces an escape, and the slash separates steps.
  if c == '~' then "~0" else if c == '/' then "~1" else c.toString

/-- A step as text, with the slash in front of it. -/
def Step.toText : Step → String
  | .field name => "/" ++ String.join (name.toList.map pointerChar)
  | .item index => "/" ++ toString index

/-- The text of a place, given by the steps from the root; the root itself is empty. -/
def pointerText (steps : List Step) : String := String.join (steps.map Step.toText)

end UdsCatalog.Json
