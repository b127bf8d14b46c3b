/-! Reading from the front of a text: the shape of all readers that leave a rest behind. -/

namespace UdsCatalog.Text

/-- Reads something from the front of a text, and leaves the rest. -/
abbrev Reads (α : Type) := List Char → Option (α × List Char)

/-- The text behind a word, if it starts with the word. -/
def past? : List Char → List Char → Option (List Char)
  | [], chars => some chars
  -- A text that ends within the word does not start with it.
  | _ :: _, [] => none
  | w :: word, c :: chars => if w == c then past? word chars else none

/-- The first of two ways to read that fits. -/
def firstOf {α : Type} (a b : Reads α) : Reads α := fun chars =>
  match a chars with
  | some found => some found
  | none => b chars

end UdsCatalog.Text
