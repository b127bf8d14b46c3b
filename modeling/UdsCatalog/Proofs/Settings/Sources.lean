import Mathlib
import UdsCatalog.Proofs.Settings.Documents
import UdsCatalog.Proofs.Settings.Variables

/-!
What all sources give for settings. They are read one after the other, and each setting has the text of the last
one that gives it one.
-/

namespace UdsCatalog.Settings

section Sources

variable {formats : List Format} {tree : Files.Tree} {environment : Environment} {required : Option Files.Path}
  {first hidden nested user asked told : Key → Option String}

/-- Sources that give texts have layers with them, from the weakest source to the strongest. -/
theorem exists_layers (firstGives : OptionalGives formats tree "udsgen.toml" first)
    (hiddenGives : OptionalGives formats tree ".udsgen.toml" hidden)
    (nestedGives : OptionalGives formats tree "config/udsgen.toml" nested)
    (userGives : UserGives formats tree environment user) (askedGives : AskedGives formats tree required asked)
    (variablesGive : VariablesGive environment told) :
    ∃ made, layers formats tree environment required = .ok made ∧
      List.Forall₂ Gives made [first, hidden, nested, user, asked, told] := by
  obtain ⟨firstLayer, firstRead, firstHas⟩ := firstGives.exists_layer
  obtain ⟨hiddenLayer, hiddenRead, hiddenHas⟩ := hiddenGives.exists_layer
  obtain ⟨nestedLayer, nestedRead, nestedHas⟩ := nestedGives.exists_layer
  obtain ⟨userLayer, userRead, userHas⟩ := userGives.exists_layer
  obtain ⟨askedLayer, askedRead, askedHas⟩ := askedGives.exists_layer
  refine ⟨[firstLayer, hiddenLayer, nestedLayer, userLayer, askedLayer, readEnvironment environment], ?_,
    .cons firstHas (.cons hiddenHas (.cons nestedHas (.cons userHas (.cons askedHas
      (.cons variablesGive.gives .nil)))))⟩
  -- The usual files are read in a row.
  have usual : usualFiles.mapM (readOptional formats tree) = .ok [firstLayer, hiddenLayer, nestedLayer] := by
    have places : usualFiles = [⟨"udsgen.toml"⟩, ⟨".udsgen.toml"⟩, ⟨"config/udsgen.toml"⟩] := by decide
    rw [places]
    simp only [List.mapM_cons, List.mapM_nil, firstRead, hiddenRead, nestedRead, Bind.bind, Except.bind]
    rfl
  -- Without a file that is asked for, its layer is empty.
  rw [layers, usual, userRead]
  cases required with
  | none =>
    obtain rfl := Except.ok.inj askedRead
    rfl
  | some path =>
    have askedRead : readRequired formats tree path = .ok askedLayer := askedRead
    simp only [askedRead, Bind.bind, Except.bind]
    rfl

end Sources

/-- The texts of a list for settings. -/
def listed (texts : List (Key × String)) (key : Key) : Option String := texts.lookup key

end UdsCatalog.Settings
