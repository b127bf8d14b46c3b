import Mathlib
import UdsCatalog.Proofs.Settings.Layers
import UdsCatalog.Proofs.Steps

/-!
Settings of values. A setting is read from the table of its group, and what stands nowhere has its default, so
layers give each setting the last text that one of them has for it.
-/

namespace UdsCatalog.Settings

/-! ### Reading a setting -/

namespace Value

/-- A value that holds no others, as text. -/
def shown : Value → String
  | .text value => value
  | .int value => toString value
  | .float value => value.plainText
  | .bool value => if value then "true" else "false"
  | _ => ""

/-- A value that holds no others can be shown as text wherever it stands. -/
theorem asText_eq {value : Value} (scalar : value.isScalar = true) (place : String) :
    value.asText place = .ok value.shown := by
  cases value with
  | text _ | int _ | float _ | bool _ => rfl
  | nothing | list _ _ | table _ _ => cases scalar

/-- What stands for a setting is read as its text. -/
theorem read_of_under? {root : Value} {key : Key} {value : Value} (stands : root.under? key = some value)
    (scalar : value.isScalar = true) : root.read key = .ok (some value.shown) := by
  rw [under?] at stands
  cases found : root.fields.lookup key.group.name with
  | none => rw [found] at stands; cases stands
  | some group =>
    rw [found, Option.getD_some] at stands
    -- Only a table has fields.
    cases group with
    | table origin fields =>
      have stands : fields.lookup key.name = some value := stands
      simp only [read, found, entry?, stands, Option.map_some, asText_eq scalar, Bind.bind, Except.bind]
      -- A setting that may be left without a value is so for one that holds nothing, which this is not.
      split
      · cases scalar
      · rfl
    | _ => cases stands

/-- What does not stand in a table is not there. -/
theorem read_of_missing {root : Value} {key : Key} (tables : root.HasTable key.group)
    (missing : root.under? key = none) : root.read key = .ok none := by
  rw [under?] at missing
  cases found : root.fields.lookup key.group.name with
  | none =>
    -- Not even the group is there.
    simp only [read, found]
    rfl
  | some group =>
    obtain ⟨origin, fields, rfl⟩ := tables group found
    rw [found, Option.getD_some] at missing
    have missing : fields.lookup key.name = none := missing
    simp only [read, found, entry?, missing, Option.map_none, Bind.bind, Except.bind]
    rfl

end Value

/-! ### All settings -/

/-- Settings are known by their values. -/
theorem ext_get {settings other : Settings} (same : ∀ key, settings.get key = other.get key) :
    settings = other := by
  obtain ⟨⟨directory, services, subFunctions, layouts, schemas⟩, ⟨output, templates, suffix⟩⟩ := settings
  obtain ⟨⟨directory', services', subFunctions', layouts', schemas'⟩, ⟨output', templates', suffix'⟩⟩ :=
    other
  -- A path is its text, also where there may be none.
  have paths : ∀ {a b : Files.Path}, some a.text = some b.text → a = b :=
    fun texts => congrArg Files.Path.mk (Option.some.inj texts)
  have optional : ∀ {a b : Option Files.Path}, a.map Files.Path.text = b.map Files.Path.text → a = b := by
    intro a b texts
    cases a <;> cases b <;> simp only [Option.map_some, Option.map_none, reduceCtorEq] at texts
    · rfl
    · exact congrArg some (paths texts)
  -- Each setting has its key, so the keys give all of them.
  obtain rfl := paths (same .definitionDirectory)
  obtain rfl := paths (same .services)
  obtain rfl := paths (same .subFunctions)
  obtain rfl := paths (same .layouts)
  obtain rfl := optional (same .schemas)
  obtain rfl := paths (same .outputDirectory)
  obtain rfl := optional (same .templates)
  obtain rfl : suffix = suffix' := Option.some.inj (same .suffix)
  rfl

/-- Settings in which one setting is given a value, if there is one. -/
def take (settings : Settings) (key : Key) : Option String → Settings
  | none => settings
  | some text => settings.set key text

/-- The setting that is given a value has it, and all others keep theirs. -/
theorem get_take (settings : Settings) (key other : Key) (text : Option String) :
    (settings.take key text).get other =
      if other = key then text.or (settings.get key) else settings.get other := by
  -- A text that is missing takes nothing, and one that is there takes the place of its own key.
  cases text with
  | none => by_cases same : other = key <;> simp [take, same]
  | some text =>
    by_cases same : other = key
    · subst same
      simp [take, get_set_self]
    · rw [if_neg same]
      exact get_set_other settings text same

/-- Settings are taken one by one: those that are read have what is read, or what they had, and all others are
as they were. -/
theorem foldlM_take_eq_ok_iff {read : Key → Except Refusal (Option String)} {keys : List Key}
    (distinct : keys.Nodup) {start settings : Settings} :
    keys.foldlM (fun settings key => (read key).map (settings.take key)) start = .ok settings ↔
      (∀ key ∈ keys, ∃ text, read key = .ok text ∧ settings.get key = text.or (start.get key)) ∧
        ∀ key ∉ keys, settings.get key = start.get key := by
  induction keys generalizing start with
  | nil =>
    -- Without settings to read, all of them are as they were.
    constructor
    · rintro ⟨⟩
      exact ⟨fun key member => absurd member List.not_mem_nil, fun key _ => rfl⟩
    · rintro ⟨-, same⟩
      exact congrArg Except.ok (ext_get fun key => (same key List.not_mem_nil).symm)
  | cons key rest ih =>
    obtain ⟨absent, distinct⟩ := List.nodup_cons.mp distinct
    -- One step reads one setting and takes it.
    have step : ∀ next, (read key).map (start.take key) = .ok next ↔
        ∃ text, read key = .ok text ∧ start.take key text = next := by
      intro next
      cases read key <;> simp [Except.map]
    rw [List.foldlM_cons, bind_eq_ok_iff]
    simp only [step, ih distinct]
    constructor
    · rintro ⟨next, ⟨text, given, rfl⟩, later, others⟩
      refine ⟨?_, ?_⟩
      · intro other member
        rcases List.mem_cons.mp member with rfl | member
        · -- The setting is not read again.
          refine ⟨text, given, ?_⟩
          rw [others other absent, get_take, if_pos rfl]
        · obtain ⟨text, given, has⟩ := later other member
          have apart : other ≠ key := fun same => absent (same ▸ member)
          rw [get_take, if_neg apart] at has
          exact ⟨text, given, has⟩
      · intro other outside
        obtain ⟨apart, outside⟩ := not_or.mp (fun member => outside (List.mem_cons.mpr member))
        rw [others other outside, get_take, if_neg apart]
    -- The other way, the first setting is taken, and what is left agrees with the goal in it.
    · rintro ⟨each, others⟩
      obtain ⟨text, given, has⟩ := each key List.mem_cons_self
      refine ⟨_, ⟨text, given, rfl⟩, ?_, ?_⟩
      · intro other member
        have apart : other ≠ key := fun same => absent (same ▸ member)
        rw [get_take, if_neg apart]
        exact each other (List.mem_cons_of_mem _ member)
      · intro other outside
        rw [get_take]
        split
        · rename_i same
          rw [same, has]
        · rename_i apart
          exact others other (by simp [apart, outside])

/-- Settings of values are taken one by one. -/
theorem ofValue_eq (root : Value) :
    ofValue root =
      Key.all.foldlM (fun settings key => (root.read key).map (settings.take key)) {} := by
  -- The two steps differ only in how they are written.
  have step : (fun (settings : Settings) (key : Key) => (do
      match ← root.read key with
      | none => return settings
      | some text => return settings.set key text : Except Refusal Settings)) =
        fun settings key => (root.read key).map (settings.take key) := by
    funext settings key
    rcases root.read key with refusal | - | text <;> rfl
  rw [← step]
  rfl

/-- Values give settings when each setting can be read; one that is not there has its default. -/
theorem ofValue_eq_ok_iff {root : Value} {settings : Settings} :
    ofValue root = .ok settings ↔
      ∀ key, ∃ text, root.read key = .ok text ∧ settings.get key = text.or (({} : Settings).get key) := by
  have distinct : Key.all.Nodup := by decide
  have all : ∀ key, key ∈ Key.all := by intro key; cases key <;> decide
  -- All settings are read, so there are no others.
  rw [ofValue_eq, foldlM_take_eq_ok_iff distinct]
  constructor
  · rintro ⟨each, -⟩ key
    exact each key (all key)
  · intro each
    exact ⟨fun key _ => each key, fun key absent => absurd (all key) absent⟩

/-- Values in which all settings can be read give settings. -/
theorem exists_ofValue {root : Value} (reads : ∀ key, ∃ text, root.read key = .ok text) :
    ∃ settings, ofValue root = .ok settings := by
  have taken : ∀ (keys : List Key) (start : Settings), ∃ settings,
      keys.foldlM (fun settings key => (root.read key).map (settings.take key)) start =
        .ok settings := by
    intro keys
    -- Each setting can be read, whatever was taken before it.
    induction keys with
    | nil => exact fun start => ⟨start, rfl⟩
    | cons key rest ih =>
      intro start
      obtain ⟨text, given⟩ := reads key
      obtain ⟨settings, later⟩ := ih (start.take key text)
      exact ⟨settings, by rw [List.foldlM_cons, given]; exact later⟩
  obtain ⟨settings, all⟩ := taken Key.all {}
  exact ⟨settings, (ofValue_eq root).trans all⟩

/-! ### Texts of layers -/

/-- The value that a setting has when no source gives it one. -/
def Key.default : Key → Option String
  | definitionDirectory => some "definitions"
  | services => some "serv.json"
  | subFunctions => some "serv_sub.json"
  | layouts => some "req_resp.json"
  | outputDirectory => some "output"
  | suffix => some ".template"
  | schemas | templates => none

/-- Settings that nothing is set in have their defaults. -/
theorem get_default (key : Key) : ({} : Settings).get key = key.default := by
  cases key <;> rfl

/-- A layer has texts for some settings, at most one for each, and tables for the groups. -/
structure Gives (layer : Named Value) (given : Key → Option String) : Prop where
  orderly : ∀ entry ∈ layer, ∀ group, Value.IsOrderly group entry
  texts : ∀ key, Value.saidBy layer key = ((given key).map Value.text).toList

/-- The last text that one of several sources gives for a setting. -/
def lastGiven (sources : List (Key → Option String)) (key : Key) : Option String :=
  (sources.filterMap (· key)).getLast?

/-- Layers over one another give each setting the last text that one of them has for it, or its default. -/
theorem exists_ofValue_of_gives {layers : List (Named Value)} {sources : List (Key → Option String)}
    (gives : List.Forall₂ Gives layers sources) :
    ∃ settings, ofValue (layers.foldl Value.putLayer (.table none [])) = .ok settings ∧
      ∀ key, settings.get key = (lastGiven sources key).or key.default := by
  -- A table never stands for a setting, nor a text for a group.
  have orderly : ∀ group, ∀ layer ∈ layers, ∀ entry ∈ layer, Value.IsOrderly group entry := by
    intro group
    induction gives with
    | nil => exact fun layer member => absurd member List.not_mem_nil
    | cons first _ ih =>
      exact List.forall_mem_cons.mpr ⟨fun entry member => first.orderly entry member group, ih⟩
  -- All texts for one setting, in the order of the layers, are those the sources give.
  have said : ∀ key, layers.flatMap (Value.saidBy · key) = (sources.filterMap (· key)).map .text := by
    intro key
    induction gives with
    | nil => rfl
    | cons first _ ih =>
      rw [List.flatMap_cons, first.texts, ih fun group =>
        (List.forall_mem_cons.mp (orderly group)).2, List.filterMap_cons]
      split <;> simp [*]
  -- What stands for a setting in the end is the last text for it.
  have stands : ∀ key, (layers.foldl Value.putLayer (.table none [])).under? key =
      (lastGiven sources key).map .text := by
    intro key
    rw [Value.under?_foldl (orderly key.group), said, List.getLast?_map, ← lastGiven]
    exact Option.or_none
  have reads : ∀ key, (layers.foldl Value.putLayer (.table none [])).read key =
      .ok (lastGiven sources key) := by
    intro key
    have stands := stands key
    cases given : lastGiven sources key with
    | none =>
      -- There is still a table for the group, or none, so the setting is missing.
      rw [given] at stands
      have tables : (Value.table none []).HasTable key.group := by
        intro value found
        cases found
      exact Value.read_of_missing (tables.foldl (orderly key.group)) stands
    | some text =>
      rw [given] at stands
      exact Value.read_of_under? stands rfl
  obtain ⟨settings, made⟩ := exists_ofValue fun key => ⟨_, reads key⟩
  refine ⟨settings, made, fun key => ?_⟩
  obtain ⟨text, given, has⟩ := ofValue_eq_ok_iff.mp made key
  rw [reads key, Except.ok.injEq] at given
  rw [has, ← given, get_default]

end UdsCatalog.Settings
