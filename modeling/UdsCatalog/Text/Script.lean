import UdsCatalog.Text.Script.Table

/-! Scripts by their names. -/

namespace UdsCatalog.Text

/-- The name of a property without what makes no difference: the case of letters, joining signs, and a
word in front that only says that something has the property. -/
def looseName (name : String) : String :=
  let small := (name.toList.filter fun c => c.toNat < 0x80).map Char.toLower
  -- The word `is` in front says nothing about which property is meant.
  let bare := match small with
    | 'i' :: 's' :: rest => rest
    | chars => chars
  let kept := bare.filter fun c => c != ' ' && c != '_' && c != '-'
  -- The one property whose name would be mistaken for another one without the word keeps it.
  String.ofList (if kept == ['c'] && bare.length != small.length then ['i', 's', 'c'] else kept)

/-- The code points of a script, by a loose name of it. -/
def script? (name : String) : Option CodeRuns :=
  (scripts.find? fun (names, _) => names.contains name).map (·.2)

end UdsCatalog.Text
