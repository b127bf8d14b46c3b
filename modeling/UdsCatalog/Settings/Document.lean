import UdsCatalog.Settings.Basic
import UdsCatalog.Toml.Writer

/-! Settings as a document: a table for each group, with an empty line between them. -/

namespace UdsCatalog.Settings

/-- The settings of a group that have a value. -/
def entries (settings : Settings) (group : Group) : List (String × String) :=
  -- An optional setting without a value is left out, and reading the document leaves it without one.
  group.keys.filterMap fun key => (settings.get key).map fun value => (key.name, value)

/-- The document of the settings. -/
def document (settings : Settings) : String :=
  Toml.tableLines Group.definitions.name (settings.entries .definitions) ++ "\n" ++
    Toml.tableLines Group.output.name (settings.entries .output)

/-- Writes the document of the settings to a file. -/
def save (settings : Settings) (tree : Files.Tree) (path : Files.Path) : Except Files.Fault Files.Tree :=
  tree.write path (.text settings.document)

end UdsCatalog.Settings
