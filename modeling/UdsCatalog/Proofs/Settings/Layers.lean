import Mathlib
import UdsCatalog.Settings.Loading

/-!
Layers of values. What stands for a setting when all layers are put over one another is the last value that
one of them has for it, as long as the layers have tables for the groups.
-/

namespace UdsCatalog.Settings

/-- The steps to a setting. -/
def Key.way (key : Key) : List Step := [.name key.group.name, .name key.name]

namespace Value

/-- What stands for a setting: the value under its name in the table of its group. -/
def under? (root : Value) (key : Key) : Option Value :=
  ((root.fields.lookup key.group.name).getD .nothing).fields.lookup key.name

/-- A value that holds no others. -/
def isScalar : Value → Bool
  | .text _ | .int _ | .float _ | .bool _ => true
  | _ => false

/-- The values that an outermost entry of a layer has for a setting: those under its name in a table for the
group, or the one at the end of the steps to it. -/
def said (key : Key) (entry : String × Value) : List Value :=
  if Step.ofText entry.1 = [.name key.group.name] then
    (entry.2.fields.filter fun (name, _) => name == key.name).map (·.2)
  else if Step.ofText entry.1 = key.way then [entry.2]
  else []

/-- An outermost entry of a layer that leads into a group either has a table for it, or a value under a
name in it, and whatever it has for settings holds no other values. -/
structure IsOrderly (group : Group) (entry : String × Value) : Prop where
  steps : (Step.ofText entry.1).head? = some (.name group.name) →
    (Step.ofText entry.1 = [.name group.name] ∧ ∃ origin fields, entry.2 = .table origin fields) ∨
      ∃ name, Step.ofText entry.1 = [.name group.name, .name name]
  scalar : ∀ key : Key, key.group = group → ∀ value ∈ said key entry, value.isScalar = true

/-! ### One value -/

/-- A value that holds no others has no fields. -/
theorem fields_of_isScalar {value : Value} (scalar : value.isScalar = true) : value.fields = [] := by
  cases value with
  | table origin fields => cases scalar
  | _ => rfl

/-- Changing fields changes the fields. -/
@[simp] theorem fields_changeFields (change : Named Value → Named Value) (value : Value) :
    (value.changeFields change).fields = change value.fields := by
  cases value <;> rfl

/-- What is put under one name is not found under another one. -/
theorem lookup_putInto_other {name other : String} (apart : other ≠ name) (target : Named Value)
    (value : Value) : (putInto name target value).lookup other = target.lookup other := by
  cases value with
  | table origin fields =>
    rw [putInto]
    split
    · -- An empty table changes nothing when something is there.
      rfl
    · exact Named.lookup_put_other _ _ apart
  | _ => exact Named.lookup_put_other _ _ apart

/-- A value that holds no others takes the place of what was there. -/
theorem lookup_putInto_self {name : String} {value : Value} (scalar : value.isScalar = true)
    (target : Named Value) : (putInto name target value).lookup name = some value := by
  cases value with
  | table origin fields => cases scalar
  | _ => exact Named.lookup_put_self _ _ _

/-- In fields that are put over others, a name stands for its last value, or for what it stood for. -/
theorem lookup_mergeInto {name : String} {fields : List (String × Value)}
    (scalar : ∀ value, (name, value) ∈ fields → value.isScalar = true) (target : Named Value) :
    (mergeInto target fields).lookup name =
      ((fields.filter fun (other, _) => other == name).map (·.2)).getLast?.or (target.lookup name) := by
  -- The fields go over the others one by one.
  induction fields generalizing target with
  | nil => rfl
  | cons first rest ih =>
    obtain ⟨other, value⟩ := first
    have later := ih (fun value member => scalar value (List.mem_cons_of_mem _ member))
    rw [mergeInto, later]
    by_cases same : other = name
    · -- The value counts unless a later one has the name, too.
      subst same
      have own := scalar value List.mem_cons_self
      rw [lookup_putInto_self own, List.filter_cons_of_pos (by simp), List.map_cons,
        List.getLast?_cons]
      cases ((rest.filter fun (name, _) => name == other).map (·.2)).getLast? <;> rfl
    · rw [lookup_putInto_other (Ne.symm same), List.filter_cons_of_neg (by simpa using same)]

/-! ### One entry -/

/-- What a way leads to through one name is not found under another one. -/
theorem lookup_putAlong_other {name other : String} (apart : other ≠ name) (value : Value)
    (rest : List Step) (root : Value) :
    (Step.putAlong value (.name name :: rest) root).fields.lookup other = root.fields.lookup other := by
  -- Whether the way ends at the name or goes on from it, only the name is given a new value.
  cases rest with
  | nil =>
    simp only [Step.putAlong, Step.putAt, fields_changeFields]
    exact lookup_putInto_other apart _ _
  | cons next more =>
    simp only [Step.putAlong, Step.change, fields_changeFields]
    exact Named.lookup_put_other _ _ apart

/-- Every way begins with a name. -/
theorem exists_ofText_eq (text : String) : ∃ name rest, Step.ofText text = .name name :: rest := by
  rw [Step.ofText]
  cases read : Step.readName text.toList with
  | none => exact ⟨text, [], rfl⟩
  | some first =>
    obtain ⟨step, chars⟩ := first
    -- What is read in front is a name, whether or not the rest of the text is a way.
    obtain ⟨name, rfl⟩ : ∃ name, step = .name name := by
      rw [Step.readName] at read
      split at read
      · cases read
      · simp only [Option.some.injEq, Prod.mk.injEq] at read
        exact ⟨_, read.1.symm⟩
    cases more : Step.readMore chars.length chars with
    | none => exact ⟨text, [], by simp [more]⟩
    | some rest => exact ⟨name, rest, by simp [more]⟩

/-- A table that goes over a group brings the last value that it has under the name of a setting. -/
theorem under?_putAlong_group {key : Key} {origin : Option Files.Path} {fields : List (String × Value)}
    (scalar : ∀ value, (key.name, value) ∈ fields → value.isScalar = true) (root : Value) :
    (Step.putAlong (.table origin fields) [.name key.group.name] root).under? key =
      ((fields.filter fun (name, _) => name == key.name).map (·.2)).getLast?.or (root.under? key) := by
  simp only [Step.putAlong, Step.putAt, under?, fields_changeFields]
  rw [putInto]
  split
  · -- An empty table over a group that is there changes nothing, and it has no values.
    rename_i unchanged
    obtain ⟨empty, -⟩ := Bool.and_eq_true_iff.mp unchanged
    obtain rfl := List.isEmpty_iff.mp empty
    rfl
  · rw [Named.lookup_put_self, Option.getD_some]
    exact lookup_mergeInto scalar _

/-- A value that goes to a name of a group is found there when it holds no others. -/
theorem under?_putAlong_self {key : Key} {value : Value} (scalar : value.isScalar = true)
    (root : Value) : (Step.putAlong value key.way root).under? key = some value := by
  simp only [Key.way, Step.putAlong, Step.change, Step.putAt, under?, fields_changeFields,
    Named.lookup_put_self, Option.getD_some]
  exact lookup_putInto_self scalar _

/-- A value that goes to another name of a group makes no difference to a setting. -/
theorem under?_putAlong_other {key : Key} {name : String} (apart : name ≠ key.name) (value root : Value) :
    (Step.putAlong value [.name key.group.name, .name name] root).under? key = root.under? key := by
  simp only [Step.putAlong, Step.change, Step.putAt, under?, fields_changeFields,
    Named.lookup_put_self, Option.getD_some]
  exact lookup_putInto_other apart.symm _ _

/-- An orderly entry brings its last value for a setting, and leaves what stands for it otherwise. -/
theorem under?_putEntry {key : Key} {entry : String × Value} (orderly : IsOrderly key.group entry)
    (root : Value) :
    (Step.putAlong entry.2 (Step.ofText entry.1) root).under? key =
      (said key entry).getLast?.or (root.under? key) := by
  obtain ⟨text, value⟩ := entry
  obtain ⟨first, rest, steps⟩ := exists_ofText_eq text
  by_cases same : first = key.group.name
  · -- The entry leads into the group, so there are two ways that it can be.
    subst same
    rcases orderly.steps (by rw [steps]; rfl) with ⟨whole, origin, fields, rfl⟩ | ⟨name, single⟩
    · have own : said key (text, .table origin fields) =
          (fields.filter fun (name, _) => name == key.name).map (·.2) := by
        rw [said, if_pos whole]
        rfl
      have scalar : ∀ value, (key.name, value) ∈ fields → value.isScalar = true := by
        intro value member
        refine orderly.scalar key rfl value ?_
        rw [own]
        exact List.mem_map.mpr ⟨_, List.mem_filter.mpr ⟨member, beq_self_eq_true _⟩, rfl⟩
      rw [own, whole, under?_putAlong_group scalar]
    · -- A value under a name counts for the setting of this name only.
      have differs : Step.ofText text ≠ [.name key.group.name] := by simp [single]
      by_cases named : name = key.name
      · subst named
        have own : said key (text, value) = [value] := by
          rw [said, if_neg differs, if_pos (show Step.ofText text = key.way from single)]
        have scalar := orderly.scalar key rfl value (by simp [own])
        rw [own, show Step.ofText text = key.way from single, under?_putAlong_self scalar]
        rfl
      · have own : said key (text, value) = [] := by
          rw [said, if_neg differs, if_neg (by simp [single, Key.way, named])]
        rw [own, single, under?_putAlong_other named]
        rfl
  · -- The entry leads elsewhere.
    have own : said key (text, value) = [] := by
      rw [said, if_neg (by simp [steps, same]), if_neg (by simp [steps, Key.way, same])]
    rw [own, steps, under?, lookup_putAlong_other (Ne.symm same)]
    rfl

/-! ### Layers -/

/-- The values that a layer has for a setting. -/
def saidBy (layer : Named Value) (key : Key) : List Value := layer.flatMap (said key)

/-- A layer brings its last value for a setting, and leaves what stands for it otherwise. -/
theorem under?_putLayer {key : Key} {layer : Named Value}
    (orderly : ∀ entry ∈ layer, IsOrderly key.group entry) (root : Value) :
    (root.putLayer layer).under? key = (saidBy layer key).getLast?.or (root.under? key) := by
  -- The entries are put into the values one by one.
  induction layer generalizing root with
  | nil => rfl
  | cons entry rest ih =>
    have first := under?_putEntry (orderly entry List.mem_cons_self) root
    have later := ih (fun entry member => orderly entry (List.mem_cons_of_mem _ member))
      (Step.putAlong entry.2 (Step.ofText entry.1) root)
    rw [putLayer, List.foldl_cons, ← putLayer, later, first, saidBy, saidBy, List.flatMap_cons,
      List.getLast?_append, Option.or_assoc]

/-- Layers over one another bring the last value that one of them has for a setting. -/
theorem under?_foldl {key : Key} {layers : List (Named Value)}
    (orderly : ∀ layer ∈ layers, ∀ entry ∈ layer, IsOrderly key.group entry) (root : Value) :
    (layers.foldl putLayer root).under? key =
      (layers.flatMap (saidBy · key)).getLast?.or (root.under? key) := by
  -- What stands for the setting so far is only asked for when the later layers have nothing.
  induction layers generalizing root with
  | nil => rfl
  | cons layer rest ih =>
    have first := under?_putLayer (orderly layer List.mem_cons_self) root
    have later := ih (fun layer member => orderly layer (List.mem_cons_of_mem _ member))
      (root.putLayer layer)
    rw [List.foldl_cons, later, first, List.flatMap_cons, List.getLast?_append, Option.or_assoc]

/-! ### Tables for the groups -/

/-- What stands for a group, if anything does, is a table. -/
def HasTable (root : Value) (group : Group) : Prop :=
  ∀ value, root.fields.lookup group.name = some value → ∃ origin fields, value = .table origin fields

/-- Values whose fields are changed are a table. -/
theorem exists_changeFields_eq (change : Named Value → Named Value) (value : Value) :
    ∃ origin fields, value.changeFields change = .table origin fields := by
  cases value <;> exact ⟨_, _, rfl⟩

/-- An orderly entry leaves a table for the group, or none. -/
theorem HasTable.putEntry {root : Value} {group : Group} (tables : root.HasTable group)
    {entry : String × Value} (orderly : IsOrderly group entry) :
    (Step.putAlong entry.2 (Step.ofText entry.1) root).HasTable group := by
  obtain ⟨text, value⟩ := entry
  obtain ⟨first, rest, steps⟩ := exists_ofText_eq text
  intro found stands
  by_cases same : first = group.name
  · subst same
    rcases orderly.steps (by rw [steps]; rfl) with ⟨whole, origin, fields, rfl⟩ | ⟨name, single⟩
    · -- A table goes over the one that is there.
      dsimp only at whole
      simp only [whole, Step.putAlong, Step.putAt, fields_changeFields] at stands
      rw [putInto] at stands
      split at stands
      · exact tables found stands
      · rw [Named.lookup_put_self, Option.some.injEq] at stands
        exact ⟨_, _, stands.symm⟩
    · -- A table is made for the name if there is none.
      dsimp only at single
      simp only [single, Step.putAlong, Step.change, Step.putAt, fields_changeFields,
        Named.lookup_put_self, Option.some.injEq] at stands
      rw [← stands]
      exact exists_changeFields_eq _ _
  · -- The entry leads elsewhere, so the group is as it was.
    rw [steps, lookup_putAlong_other (Ne.symm same)] at stands
    exact tables found stands

/-- A layer of orderly entries leaves a table for the group, or none. -/
theorem HasTable.putLayer {root : Value} {group : Group} (tables : root.HasTable group)
    {layer : Named Value} (orderly : ∀ entry ∈ layer, IsOrderly group entry) :
    (root.putLayer layer).HasTable group := by
  induction layer generalizing root with
  | nil => exact tables
  | cons entry rest ih =>
    exact ih (tables.putEntry (orderly entry List.mem_cons_self))
      (fun entry member => orderly entry (List.mem_cons_of_mem _ member))

/-- Layers of orderly entries leave a table for the group, or none. -/
theorem HasTable.foldl {root : Value} {group : Group} (tables : root.HasTable group)
    {layers : List (Named Value)}
    (orderly : ∀ layer ∈ layers, ∀ entry ∈ layer, IsOrderly group entry) :
    (layers.foldl Value.putLayer root).HasTable group := by
  induction layers generalizing root with
  | nil => exact tables
  | cons layer rest ih =>
    exact ih (tables.putLayer (orderly layer List.mem_cons_self))
      (fun layer member => orderly layer (List.mem_cons_of_mem _ member))

end Value

end UdsCatalog.Settings
