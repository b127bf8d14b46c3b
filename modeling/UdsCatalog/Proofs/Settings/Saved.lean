import Mathlib
import UdsCatalog.Proofs.Files.Named
import UdsCatalog.Proofs.Generation.Output
import UdsCatalog.Proofs.Settings.Sources
import UdsCatalog.Proofs.Toml.Document
import UdsCatalog.Settings.Document

/-!
Saved settings. The document of settings has their texts in the tables of their groups, so settings that were
saved are loaded as they were.
-/

namespace UdsCatalog.Settings

/-! ### The document -/

/-- The names of groups need no quotes. -/
theorem isBareKey_groupName (group : Group) : Toml.IsBareKey group.name := by
  cases group <;> exact ⟨by decide, List.all_eq_true.mp (by decide)⟩

/-- The names of settings need no quotes. -/
theorem isBareKey_keyName (key : Key) : Toml.IsBareKey key.name := by
  cases key <;> exact ⟨by decide, List.all_eq_true.mp (by decide)⟩

/-- The lines of a group have names of settings. -/
theorem exists_key_of_mem_entries {settings : Settings} {group : Group} {line : String × String}
    (member : line ∈ settings.entries group) : ∃ key : Key, line.1 = key.name := by
  obtain ⟨key, -, made⟩ := List.mem_filterMap.mp member
  obtain ⟨text, -, rfl⟩ := Option.map_eq_some_iff.mp made
  exact ⟨key, rfl⟩

/-- The lines of a group have names of their own. -/
theorem nodup_entries (settings : Settings) (group : Group) :
    ((settings.entries group).map (·.1)).Nodup := by
  have names : (group.keys.map Key.name).Nodup := by cases group <;> decide
  -- Only settings without a value are left out.
  have fewer : ((settings.entries group).map (·.1)).Sublist (group.keys.map Key.name) := by
    rw [entries]
    induction group.keys with
    | nil => exact .slnil
    | cons key rest ih =>
      cases value : settings.get key with
      | none => simpa [value] using ih.cons key.name
      | some text => simpa [value] using ih
  exact names.sublist fewer

/-- The names of groups are in small letters. -/
theorem Group.toSmall_name (group : Group) : Text.toSmall group.name = group.name := by
  cases group <;> decide

/-- The names of settings are in small letters. -/
theorem Key.toSmall_name (key : Key) : Text.toSmall key.name = key.name := by
  cases key <;> decide

/-- Each field of a document is under its name in small letters. -/
theorem fieldsOfToml_eq (origin : Files.Path) (fields : Named Toml) :
    Value.fieldsOfToml origin fields =
      fields.map fun (name, value) => (Text.toSmall name, Value.ofToml origin value) := by
  induction fields with
  | nil => rfl
  | cons first rest ih => rw [Value.fieldsOfToml, ih, List.map_cons]

/-- The table of a group has the texts for its settings. -/
theorem ofToml_textTable_entries (file : Files.Path) (settings : Settings) (group : Group) :
    Value.ofToml file (Toml.textTable (settings.entries group)) =
      .table (some file) (textsOf settings.get group) := by
  rw [Toml.textTable, Value.ofToml, fieldsOfToml_eq, entries, List.map_filterMap, List.map_filterMap, textsOf]
  simp only [Option.map_map, Function.comp_def, Key.toSmall_name, Value.ofToml]

/-- The document of settings has a table for each group. -/
theorem parse?_document (settings : Settings) :
    Toml.parse? settings.document = some ([Group.definitions, Group.output].map fun group =>
      (group.name, Toml.textTable (settings.entries group))) := by
  -- Both tables have plain names, and each name stands once.
  have bare : ∀ group, ∀ line ∈ settings.entries group, Toml.IsBareKey line.1 := by
    intro group line member
    obtain ⟨key, named⟩ := exists_key_of_mem_entries member
    rw [named]
    exact isBareKey_keyName key
  have apart : Group.output.name ≠ Group.definitions.name := by decide
  rw [document, Toml.parse?_tableLines (isBareKey_groupName _) (isBareKey_groupName _) apart (bare _) (bare _)
    (nodup_entries settings _) (nodup_entries settings _)]
  rfl

/-- The document of settings has their texts. -/
theorem read_document (file : Files.Path) (settings : Settings) :
    Format.toml.read file settings.document = some (tablesOf file settings.get) := by
  simp only [Format.toml, parse?_document, Option.map_some, fieldsOfToml_eq, List.map_map, Function.comp_def,
    Group.toSmall_name, ofToml_textTable_entries, tablesOf]

/-! ### Other files -/

/-- A path with a suffix behind it has that of one of the formats. -/
theorem mem_suffixed_iff {formats : List Format} {path found : Files.Path} {format : Format} :
    (found, format) ∈ suffixed formats path ↔
      format ∈ formats ∧ ∃ suffix ∈ format.suffixes, withSuffix? path suffix = some found := by
  simp only [suffixed, List.mem_flatMap, List.mem_map, List.mem_filterMap, Prod.mk.injEq]
  constructor
  · rintro ⟨own, member, file, found, rfl, rfl⟩
    exact ⟨member, found⟩
  · rintro ⟨member, found⟩
    exact ⟨format, member, _, found, rfl, rfl⟩

/-- What is fetched is the text of a file at the path, or at the path with a suffix behind it. -/
theorem of_fetch_eq_ok {formats : List Format} {tree : Files.Tree} {path found : Files.Path} {format : Format}
    {text : String} (fetched : fetch formats tree path = .ok (found, format, text)) :
    (found = path ∧ formats.find? (·.isFor path) = some format ∨ (found, format) ∈ suffixed formats path) ∧
      tree.isFile found = true ∧ tree.readText found = .ok text := by
  -- First the file is found, then its text is read.
  obtain ⟨⟨place, own⟩, located, read⟩ := bind_eq_ok_iff.mp fetched
  obtain ⟨rfl, rfl, opened⟩ : place = found ∧ own = format ∧ tree.readText place = .ok text := by
    dsimp only at read
    split at read
    · rename_i opened
      simp only [pure, Except.pure, Except.ok.injEq, Prod.mk.injEq] at read
      obtain ⟨rfl, rfl, rfl⟩ := read
      exact ⟨rfl, rfl, opened⟩
    · cases read
  refine ⟨?_, Files.Tree.isFile_of_readText opened, opened⟩
  -- A path with a file stands for itself, and any other for the first one with a suffix.
  unfold locate at located
  split at located
  · split at located
    · rename_i named
      simp only [Except.ok.injEq, Prod.mk.injEq] at located
      obtain ⟨rfl, rfl⟩ := located
      exact .inl ⟨rfl, named⟩
    · cases located
  · split at located
    · rename_i first
      obtain rfl := Except.ok.inj located
      exact .inr (List.mem_of_find?_eq_some first)
    · cases located

variable {tree : Files.Tree} {path : Files.Path} {environment : Environment}

/-- A file that is found where another one stands has the text of the other one. -/
theorem readText_of_find_eq {file : Files.Path} {text : String} (same : tree.find file = tree.find path)
    (read : tree.readText path = .ok text) : tree.readText file = .ok text := by
  rw [Files.Tree.readText, same]
  exact read

/-- The usual files and the file of the user may stand at their paths, or with a suffix behind them. -/
theorem mem_candidates {file found : Files.Path} (place : file ∈ usualFiles ∨ userFile? environment = some file)
    (either : found = file ∨ ∃ suffix ∈ fileSuffixes, withSuffix? file suffix = some found) :
    found ∈ candidates environment none := by
  -- Both kinds of places come from the paths that are named.
  have named : file ∈ usualFiles ++ (userFile? environment).toList ++ (none : Option Files.Path).toList := by
    rcases place with usual | own
    · simp [usual]
    · simp [own]
  rcases either with rfl | ⟨suffix, known, suffixed⟩
  · exact List.mem_append_left _ named
  · exact List.mem_append_right _
      (List.mem_flatMap.mpr ⟨file, named, List.mem_filterMap.mpr ⟨suffix, known, suffixed⟩⟩)

/-- The suffixes of the usual formats are known. -/
theorem mem_fileSuffixes {format : Format} {suffix : String} (standard : format ∈ Format.standard)
    (own : suffix ∈ format.suffixes) : suffix ∈ fileSuffixes := by
  simp only [Format.standard, List.mem_cons, List.not_mem_nil, or_false] at standard
  rcases standard with rfl | rfl <;> obtain rfl := List.mem_singleton.mp own <;> decide

/-- A path with a suffix behind it ends in the suffix. -/
theorem exists_getLast?_of_withSuffix? {suffix : String} {found : Files.Path} (noSlash : '/' ∉ suffix.toList)
    (suffixed : withSuffix? path suffix = some found) :
    ∃ name, found.parts.getLast? = some (name ++ suffix) := by
  obtain ⟨name, named, placed⟩ := Option.bind_eq_some_iff.mp suffixed
  obtain ⟨directory, -, joined⟩ := Option.bind_eq_some_iff.mp placed
  obtain rfl := Option.some.inj joined
  refine ⟨name, Files.Path.getLast?_join_of_noSlash ?_ directory⟩
  rw [String.toList_append, List.mem_append, not_or]
  exact ⟨Files.Path.noSlash_of_fileName? named, noSlash⟩

/-- A saved file is read as the document that it is, along whichever path it is found. -/
theorem format_eq_toml_of_fetch {file found : Files.Path} {format : Format} {text : String}
    (named : (path.fileName?.bind (Generation.stem? fileSuffix)).isSome = true)
    (there : tree.isFile path = true) (same : tree.find found = tree.find path)
    (fetched : fetch Format.standard tree file = .ok (found, format, text)) : format = .toml := by
  obtain ⟨name, plain, ends, own⟩ := Files.Tree.exists_name_of_find_eq same there
  rw [plain.fileName?_eq own] at named
  obtain ⟨either, -, -⟩ := of_fetch_eq_ok fetched
  rcases either with ⟨rfl, first⟩ | suffixed
  · -- The name at the end of the path is that of the saved file.
    have isToml : Format.toml.isFor found = true := by
      simpa [Format.isFor, Format.toml, plain.fileName?_eq ends] using named
    rw [Format.find?_standard_toml isToml] at first
    exact (Option.some.inj first).symm
  · -- The suffix at the end of the path would be that of another format.
    obtain ⟨standard, suffix, member, placed⟩ := mem_suffixed_iff.mp suffixed
    simp only [Format.standard, List.mem_cons, List.not_mem_nil, or_false] at standard
    rcases standard with rfl | rfl
    · rfl
    · obtain rfl := List.mem_singleton.mp member
      obtain ⟨front, last⟩ := exists_getLast?_of_withSuffix? (by decide) placed
      obtain ⟨stem, cut⟩ := Option.isSome_iff_exists.mp named
      have twice : front ++ ".json" = stem ++ fileSuffix :=
        (Option.some.inj (last.symm.trans ends)).trans (Generation.stem?_eq_some_iff.mp cut).1
      have letters := congrArg (fun text => text.toList.getLast?) twice
      simp [fileSuffix] at letters

/-- Where nothing else can be found than a saved file, its texts are given or none. -/
theorem exists_optionalGives {settings : Settings} {file : Files.Path}
    (named : (path.fileName?.bind (Generation.stem? fileSuffix)).isSome = true)
    (read : tree.readText path = .ok settings.document)
    (alone : ∀ found, (found = file ∨ ∃ suffix ∈ fileSuffixes, withSuffix? file suffix = some found) →
      tree.isFile found = true → tree.find found = tree.find path) :
    ∃ given, OptionalGives Format.standard tree file given ∧
      ∀ key, given key = settings.get key ∨ given key = none := by
  cases fetched : fetch Format.standard tree file with
  | error refusal => exact ⟨fun _ => none, .inr ⟨⟨refusal, fetched⟩, fun _ => rfl⟩, fun _ => .inr rfl⟩
  | ok result =>
    obtain ⟨found, format, text⟩ := result
    obtain ⟨either, there, own⟩ := of_fetch_eq_ok fetched
    have place : found = file ∨ ∃ suffix ∈ fileSuffixes, withSuffix? file suffix = some found := by
      rcases either with ⟨same, -⟩ | suffixed
      · exact .inl same
      · obtain ⟨standard, suffix, member, placed⟩ := mem_suffixed_iff.mp suffixed
        exact .inr ⟨suffix, mem_fileSuffixes standard member, placed⟩
    -- What is found is the saved file, so its text is the document.
    have same := alone found place there
    obtain rfl : settings.document = text := by
      have again := readText_of_find_eq same read
      rw [own, Except.ok.injEq] at again
      exact again.symm
    obtain rfl := format_eq_toml_of_fetch named (Files.Tree.isFile_of_readText read) same fetched
    exact ⟨settings.get, .inl (requiredGives_of_fetch fetched rfl (read_document _ settings)),
      fun _ => .inl rfl⟩

/-- Variables that are for no setting give nothing. -/
theorem variablesGive_none (unset : ∀ entry ∈ environment, wayOfVariable? entry.1 = none) :
    VariablesGive environment fun _ => none where
  names group := leadsToNames_of_settings group fun entry member => .inl (unset entry member)
  texts key := by
    -- A variable that leads nowhere is none of those for the key.
    have noOne : ∀ entry ∈ environment,
        ¬ ((wayOfVariable? entry.1).map Step.ofText == some key.way) = true := by
      intro entry member
      simp [unset entry member]
    rw [variablesFor, List.filter_eq_nil_iff.mpr noOne]
    rfl
  plain key text given := by cases given

/-! ### Saving and loading -/

/-- A setting without a value has none by default. -/
theorem default_eq_none {settings : Settings} {key : Key} (missing : settings.get key = none) :
    key.default = none := by
  cases key with
  | schemas | templates => rfl
  | _ => cases missing

/-- The texts of settings decide when the sources before them have the same texts or none, and the one behind
them has none. What has no text then has none by default either. -/
theorem lastGiven_or_default {settings : Settings} {earlier : List (Key → Option String)} {key : Key}
    (same : ∀ other ∈ earlier, other key = settings.get key ∨ other key = none) :
    (lastGiven (earlier ++ [settings.get, fun _ => none]) key).or key.default = settings.get key := by
  cases text : settings.get key with
  | some own => simp [lastGiven, text]
  -- The saved settings have no text here, so no earlier layer may have one either.
  | none =>
    have nothing : earlier.filterMap (· key) = [] := by
      refine List.filterMap_eq_nil_iff.mpr fun other member => ?_
      rcases same other member with own | missing
      · rw [own, text]
      · exact missing
    simp [lastGiven, nothing, text, default_eq_none text]

/-- Settings are loaded from their document when no other file and no variable gives any. -/
theorem load_document {settings : Settings}
    (named : (path.fileName?.bind (Generation.stem? fileSuffix)).isSome = true)
    (read : tree.readText path = .ok settings.document)
    (only : ∀ file ∈ candidates environment none, tree.isFile file = true → tree.find file = tree.find path)
    (unset : ∀ entry ∈ environment, wayOfVariable? entry.1 = none) :
    load tree environment (some path) = .ok settings := by
  -- The document may also stand in a usual place, and then it is read twice.
  have optional : ∀ file, file ∈ usualFiles ∨ userFile? environment = some file →
      ∃ given, OptionalGives Format.standard tree file given ∧
        ∀ key, given key = settings.get key ∨ given key = none :=
    fun file place =>
      exists_optionalGives named read fun found either => only found (mem_candidates place either)
  obtain ⟨first, firstGives, firstOwn⟩ := optional "udsgen.toml" (.inl (by decide))
  obtain ⟨hidden, hiddenGives, hiddenOwn⟩ := optional ".udsgen.toml" (.inl (by decide))
  obtain ⟨nested, nestedGives, nestedOwn⟩ := optional "config/udsgen.toml" (.inl (by decide))
  obtain ⟨user, userGives, userOwn⟩ : ∃ given, UserGives Format.standard tree environment given ∧
      ∀ key, given key = settings.get key ∨ given key = none := by
    unfold UserGives
    split
    · rename_i file place
      exact optional file (.inr (Option.filter_eq_some_iff.mp place).1)
    · exact ⟨fun _ => none, fun _ => rfl, fun _ => .inr rfl⟩
  -- The path that is asked for gives the whole document, and variables give nothing.
  have isToml : Format.toml.isFor path = true := by simpa [Format.isFor, Format.toml] using named
  have asked : AskedGives Format.standard tree (some path) settings.get :=
    requiredGives_of_read (Format.find?_standard_toml isToml) read rfl (read_document _ settings)
  obtain ⟨made, layersRead, give⟩ := exists_layers firstGives hiddenGives nestedGives userGives asked
    (variablesGive_none unset)
  obtain ⟨loaded, taken, texts⟩ := exists_ofValue_of_gives give
  -- No source says anything else, and the one that was asked for says all.
  have same : loaded = settings := by
    refine ext_get fun key => (texts key).trans ?_
    have earlier : ∀ other ∈ [first, hidden, nested, user],
        other key = settings.get key ∨ other key = none := by
      simp only [List.forall_mem_cons]
      exact ⟨firstOwn key, hiddenOwn key, nestedOwn key, userOwn key, by simp⟩
    exact lastGiven_or_default earlier
  rw [load, loadWith, layersRead, ← same]
  exact taken

/-- Settings that are saved to a file with the suffix are loaded from it as they were, when neither another
file nor a variable gives any. They are saved wherever a file can be written. -/
theorem exists_load_of_save {settings : Settings} {content : Files.Content} {made : Files.Tree}
    (named : (path.fileName?.bind (Generation.stem? fileSuffix)).isSome = true)
    (writable : tree.write path content = .ok made)
    (alone : ∀ file ∈ candidates environment none, tree.isFile file = true → tree.find file = tree.find path)
    (unset : ∀ entry ∈ environment, wayOfVariable? entry.1 = none) :
    ∃ after, settings.save tree path = .ok after ∧ load after environment (some path) = .ok settings := by
  obtain ⟨after, saved⟩ := Files.Tree.exists_write_congr writable (.text settings.document)
  obtain ⟨_, _, _, _, _, _, _, _, standing⟩ := Files.Tree.exists_of_write saved
  have read := Files.Tree.readText_eq_ok_iff.mpr ⟨_, standing⟩
  -- Every file that gives settings afterwards is the one that was saved.
  have only : ∀ file ∈ candidates environment none, after.isFile file = true →
      after.find file = after.find path :=
    fun file member => Files.Tree.find_eq_of_write saved (alone file member)
  exact ⟨after, saved, load_document named read only unset⟩

/-- Settings with quotes, backslashes, ends of lines and control characters in their texts. -/
def quotedSettings : Settings where
  definitions := {
    directory := "a \"quoted\" 'name'", services := "C:\\new\n\"\"\"\"", subFunctions := "\x00\t\r\x7f",
    layouts := "", schemas := some "'''\"\"" }
  output := { directory := "\r\n'''\n", suffix := "\\" }

/-- Settings with all kinds of characters are loaded as they were saved. -/
theorem exists_load_of_save_quoted :
    ∃ after, quotedSettings.save .empty "saved.toml" = .ok after ∧
      load after [("HOME", "home")] (some "saved.toml") = .ok quotedSettings := by
  have writable : ∃ made, Files.Tree.empty.write "saved.toml" (.text "") = .ok made := ⟨_, rfl⟩
  have nowhere : ∀ file ∈ candidates [("HOME", "home")] none, Files.Tree.empty.isFile file = false := by
    decide
  have unset : ∀ entry ∈ [("HOME", "home")], wayOfVariable? entry.1 = none := by decide
  -- No other source is there, so the file that was saved is the only one.
  obtain ⟨made, writable⟩ := writable
  refine exists_load_of_save (by decide) writable ?_ unset
  intro file member there
  rw [nowhere file member] at there
  cases there

end UdsCatalog.Settings
