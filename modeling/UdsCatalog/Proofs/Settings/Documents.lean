import Mathlib
import UdsCatalog.Proofs.Files.Tree
import UdsCatalog.Proofs.Settings.Loading

/-!
What files give for settings. A document has a text for a setting under its name in the table of its group, and
a file that need not be there gives nothing when it is not.
-/

namespace UdsCatalog.Settings

/-! ### Documents -/

/-- The values under a name. -/
def valuesUnder (name : String) (fields : Named Value) : List Value :=
  (fields.filter fun (other, _) => other == name).map (·.2)

/-- The values of a document have texts for some settings, at most one for each: they stand under the names of
the settings in the tables of their groups. What else there is leads into no group. -/
structure DocumentGives (values : Named Value) (given : Key → Option String) : Prop where
  tables : ∀ group : Group, ∀ value ∈ valuesUnder group.name values, ∃ origin inner, value = .table origin inner
  texts : ∀ key : Key, (valuesUnder key.group.name values).flatMap
    (fun group => valuesUnder key.name group.fields) = ((given key).map Value.text).toList
  names : ∀ entry ∈ values, ∀ group : Group,
    (Step.ofText entry.1).head? = some (.name group.name) → entry.1 = group.name

/-- The name of a group leads to the group. -/
theorem ofText_groupName (group : Group) : Step.ofText group.name = [.name group.name] := by
  cases group <;> decide

/-- A value is found under its name. -/
theorem mem_valuesUnder {name : String} {value : Value} {fields : Named Value}
    (member : (name, value) ∈ fields) : value ∈ valuesUnder name fields :=
  List.mem_map.mpr ⟨(name, value), List.mem_filter.mpr ⟨member, beq_self_eq_true _⟩, rfl⟩

/-- What is done with the values under a name is done with each value that has the name. -/
theorem flatMap_valuesUnder {α : Type} (name : String) (fields : Named Value) (f : Value → List α) :
    (valuesUnder name fields).flatMap f =
      fields.flatMap fun (other, value) => if other = name then f value else [] := by
  -- Values of other names are left out on both sides.
  induction fields with
  | nil => rfl
  | cons first rest ih =>
    obtain ⟨other, value⟩ := first
    rw [List.flatMap_cons, ← ih]
    by_cases same : other = name <;> simp [valuesUnder, same]

namespace DocumentGives

variable {values : Named Value} {given : Key → Option String}

/-- An entry of a document has values for a setting when it is the table of the group. -/
theorem said_eq (document : DocumentGives values given) (key : Key) {name : String} {value : Value}
    (member : (name, value) ∈ values) :
    Value.said key (name, value) =
      if name = key.group.name then valuesUnder key.name value.fields else [] := by
  by_cases same : name = key.group.name
  · have whole : Step.ofText name = [.name key.group.name] := by
      rw [same, ofText_groupName]
    rw [Value.said, if_pos whole, if_pos same]
    rfl
  · -- The name leads into no group.
    have elsewhere : (Step.ofText name).head? ≠ some (.name key.group.name) :=
      fun leads => same (document.names _ member key.group leads)
    have noGroup : Step.ofText name ≠ [.name key.group.name] :=
      fun steps => elsewhere (by rw [steps]; rfl)
    have noWay : Step.ofText name ≠ key.way :=
      fun steps => elsewhere (by rw [steps]; rfl)
    rw [Value.said, if_neg noGroup, if_neg noWay, if_neg same]

/-- The layer of a document has its texts. -/
theorem gives (document : DocumentGives values given) : Gives values given := by
  have texts : ∀ key, Value.saidBy values key = ((given key).map Value.text).toList := by
    intro key
    -- Only the tables of the group have values for the setting, each those under its name.
    have each : Value.saidBy values key = values.flatMap fun (name, value) =>
        if name = key.group.name then valuesUnder key.name value.fields else [] :=
      List.flatMap_congr fun entry member => document.said_eq key member
    rw [each, ← flatMap_valuesUnder key.group.name values (fun value => valuesUnder key.name value.fields),
      document.texts key]
  refine ⟨fun entry member group => ⟨fun leads => .inl ?_, ?_⟩, texts⟩
  · -- What leads into a group is its table.
    obtain ⟨name, value⟩ := entry
    obtain rfl : name = group.name := document.names _ member group leads
    exact ⟨ofText_groupName group, document.tables group value (mem_valuesUnder member)⟩
  · -- All values that it has for settings are texts.
    rintro key - value said
    have member : value ∈ Value.saidBy values key := List.mem_flatMap.mpr ⟨entry, member, said⟩
    rw [texts key, Option.mem_toList, Option.map_eq_some_iff] at member
    obtain ⟨text, -, rfl⟩ := member
    rfl

end DocumentGives

/-- The texts for the settings of a group, each under the name of its setting. -/
def textsOf (given : Key → Option String) (group : Group) : Named Value :=
  group.keys.filterMap fun key => (given key).map fun text => (key.name, .text text)

/-- The tables of a document with texts for settings, which is that of a file. -/
def tablesOf (file : Files.Path) (given : Key → Option String) : Named Value :=
  [Group.definitions, Group.output].map fun group => (group.name, .table (some file) (textsOf given group))

/-- Under the name of a group stands its table. -/
theorem valuesUnder_tablesOf (file : Files.Path) (given : Key → Option String) (group : Group) :
    valuesUnder group.name (tablesOf file given) = [.table (some file) (textsOf given group)] := by
  have names : Group.output.name ≠ Group.definitions.name := by decide
  cases group <;> simp [valuesUnder, tablesOf, names, names.symm]

/-- Under the name of a setting stands the text for it. -/
theorem valuesUnder_textsOf (given : Key → Option String) (key : Key) :
    valuesUnder key.name (textsOf given key.group) = ((given key).map Value.text).toList := by
  -- Of the settings of the group only this one has the name.
  have named : (key.group.keys.filter fun other => other.name == key.name) = [key] := by
    cases key <;> decide
  have each : ∀ other : Key, (((given other).map fun text => (other.name, Value.text text)).filter
      fun (name, _) => name == key.name).map (·.2) =
        if other.name == key.name then (given other).map Value.text else none := by
    intro other
    cases given other with
    | none => simp
    | some text => by_cases same : other.name = key.name <;> simp [same]
  -- Names and settings are looked through at once.
  rw [valuesUnder, textsOf, List.filter_filterMap, List.map_filterMap]
  simp only [each]
  rw [← List.filterMap_filter, named]
  cases text : given key <;> simp [text]

/-- A document with texts for settings in the tables of their groups gives these texts. -/
theorem documentGives_tablesOf (file : Files.Path) (given : Key → Option String) :
    DocumentGives (tablesOf file given) given where
  tables group value member := by
    rw [valuesUnder_tablesOf, List.mem_singleton] at member
    exact ⟨_, _, member⟩
  texts key := by
    rw [valuesUnder_tablesOf, List.flatMap_singleton]
    exact valuesUnder_textsOf given key
  names entry member group leads := by
    -- The only names are those of the groups.
    obtain ⟨own, -, rfl⟩ := List.mem_map.mp member
    dsimp only at leads ⊢
    rw [ofText_groupName] at leads
    simpa using leads

/-! ### Files -/

section Files

variable {formats : List Format} {tree : Files.Tree} {path : Files.Path} {given : Key → Option String}

/-- A file that is there gives the texts of its document, as its format reads it. -/
def RequiredGives (formats : List Format) (tree : Files.Tree) (path : Files.Path)
    (given : Key → Option String) : Prop :=
  ∃ found format text values, fetch formats tree path = .ok (found, format, text) ∧
    format.read (shownPath tree found) text = some values ∧ DocumentGives values given

/-- A file that need not be there gives the texts of its document, or nothing. -/
def OptionalGives (formats : List Format) (tree : Files.Tree) (path : Files.Path)
    (given : Key → Option String) : Prop :=
  RequiredGives formats tree path given ∨
    (∃ refusal, fetch formats tree path = .error refusal) ∧ ∀ key, given key = none

/-- The file of the user gives the texts of its document, or nothing. It counts only at its very place. -/
def UserGives (formats : List Format) (tree : Files.Tree) (environment : Environment)
    (given : Key → Option String) : Prop :=
  match (userFile? environment).filter fun path => tree.isFile path || tree.isDirectory path with
  | some path => OptionalGives formats tree path given
  | none => ∀ key, given key = none

/-- The file that is asked for gives the texts of its document. When none is asked for, nothing is given. -/
def AskedGives (formats : List Format) (tree : Files.Tree) (asked : Option Files.Path)
    (given : Key → Option String) : Prop :=
  match asked with
  | some path => RequiredGives formats tree path given
  | none => ∀ key, given key = none

/-- A layer without entries gives nothing. -/
theorem gives_nil (nothing : ∀ key, given key = none) : Gives [] given := by
  refine ⟨fun entry member => absurd member List.not_mem_nil, fun key => ?_⟩
  rw [nothing key]
  rfl

/-- A file with the name of a format is what its path stands for. -/
theorem fetch_of_readText {format : Format} {text : String}
    (named : formats.find? (·.isFor path) = some format) (read : tree.readText path = .ok text) :
    fetch formats tree path = .ok (path, format, text) := by
  -- The file itself is there, so no suffix is tried.
  have there := Files.Tree.isFile_of_readText read
  simp only [fetch, locate, there, named, if_true, read, Bind.bind, Except.bind]
  rfl

/-- Of the usual formats the first that a name can have is the one with tables and keys. -/
theorem Format.find?_standard_toml (named : Format.toml.isFor path = true) :
    Format.standard.find? (·.isFor path) = some .toml := by
  simp [Format.standard, named]

/-- What is found with tables of texts gives these texts. -/
theorem requiredGives_of_fetch {found file : Files.Path} {format : Format} {text : String}
    (fetched : fetch formats tree path = .ok (found, format, text)) (shown : shownPath tree found = file)
    (has : format.read file text = some (tablesOf file given)) : RequiredGives formats tree path given := by
  rw [← shown] at has
  exact ⟨found, format, text, _, fetched, has, documentGives_tablesOf _ given⟩

/-- A file with tables of texts gives these texts. -/
theorem requiredGives_of_read {file : Files.Path} {format : Format} {text : String}
    (named : formats.find? (·.isFor path) = some format) (read : tree.readText path = .ok text)
    (shown : shownPath tree path = file) (has : format.read file text = some (tablesOf file given)) :
    RequiredGives formats tree path given :=
  requiredGives_of_fetch (fetch_of_readText named read) shown has

/-- What a format reads are the values of a file. -/
theorem Format.values_of_read {format : Format} {text : String} {values : Named Value}
    (has : format.read (shownPath tree path) text = some values) :
    format.values tree path text = .ok values := by
  rw [Format.values, has]

/-- A file that gives texts has a layer with them. -/
theorem RequiredGives.exists_layer (gives : RequiredGives formats tree path given) :
    ∃ layer, readRequired formats tree path = .ok layer ∧ Gives layer given := by
  obtain ⟨found, format, text, values, fetched, has, document⟩ := gives
  refine ⟨values, ?_, document.gives⟩
  rw [readRequired, fetched]
  exact Format.values_of_read has

/-- A file that gives texts, or nothing, has a layer with what it gives. -/
theorem OptionalGives.exists_layer (gives : OptionalGives formats tree path given) :
    ∃ layer, readOptional formats tree path = .ok layer ∧ Gives layer given := by
  rcases gives with ⟨found, format, text, values, fetched, has, document⟩ | ⟨⟨refusal, missing⟩, nothing⟩
  · refine ⟨values, ?_, document.gives⟩
    rw [readOptional, fetched]
    exact Format.values_of_read has
  · refine ⟨[], ?_, gives_nil nothing⟩
    simp only [readOptional, missing]

/-- The file of the user has a layer with what it gives. -/
theorem UserGives.exists_layer {environment : Environment}
    (gives : UserGives formats tree environment given) :
    ∃ layer, readUserFile formats tree environment = .ok layer ∧ Gives layer given := by
  -- Without a file of the user there is no layer, and with one it is read like any other.
  unfold UserGives at gives
  unfold readUserFile
  revert gives
  cases (userFile? environment).filter fun path => tree.isFile path || tree.isDirectory path with
  | none => exact fun gives => ⟨[], rfl, gives_nil gives⟩
  | some path => exact fun gives => OptionalGives.exists_layer gives

/-- The file that is asked for has a layer with what it gives. -/
theorem AskedGives.exists_layer {required : Option Files.Path}
    (gives : AskedGives formats tree required given) :
    ∃ layer, (match required with
      | some path => readRequired formats tree path
      | none => .ok []) = .ok layer ∧ Gives layer given := by
  cases required with
  | none => exact ⟨[], rfl, gives_nil gives⟩
  | some path => exact RequiredGives.exists_layer gives

end Files

end UdsCatalog.Settings
