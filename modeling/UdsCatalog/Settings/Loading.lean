import UdsCatalog.Settings.Source

/-! Settings from the values of the sources. What no source sets has its default. -/

namespace UdsCatalog.Settings

/-- The place of a setting in its group. -/
def Key.position (key : Key) : Nat := key.group.keys.idxOf key

/-- A value as text. Numbers and truth values are shown; nothing else is a text. -/
def Value.asText (place : String) : Value → Except Refusal String
  | .text value => .ok value
  | .int value => .ok (toString value)
  | .float value => .ok value.plainText
  | .bool value => .ok (if value then "true" else "false")
  -- Only lists and tables still know the file they come from.
  | value => .error (.wrongValue value.shape place value.origin?)

/-- The value of a setting in its group, with its place: a table has it under its name, a list in the
order of the settings. -/
def Value.entry? (key : Key) (group : Value) : Except Refusal (Option (String × Value)) :=
  match group with
  | .table _ fields =>
    .ok ((fields.lookup key.name).map fun value => (key.group.name ++ "." ++ key.name, value))
  -- A group may be listed without names, in the order of its settings.
  | .list _ items =>
    .ok (items[key.position]?.map fun value =>
      (key.group.name ++ "[" ++ toString key.position ++ "]", value))
  | _ => .error (.wrongGroup group.shape key.group)

/-- The text that values give for a setting. -/
def Value.read (root : Value) (key : Key) : Except Refusal (Option String) := do
  match root.fields.lookup key.group.name with
  | none => return none
  | some group =>
    match ← group.entry? key with
    | none => return none
    | some (place, value) =>
      match key.isOptional, value with
      -- The empty value means the same as none, but only where a setting may have none.
      | true, .nothing => return none
      | _, _ => return some (← value.asText place)

/-- The settings that values give. -/
def ofValue (root : Value) : Except Refusal Settings :=
  -- The first setting in this order whose value is wrong decides the refusal.
  Key.all.foldlM
    (fun settings key => do
      match ← root.read key with
      | none => return settings
      | some text => return settings.set key text)
    {}

/-- Loads the settings from all sources, whose files are in some formats. A file of several formats is
read in the first of them. -/
def loadWith (formats : List Format) (tree : Files.Tree) (environment : Environment)
    (required : Option Files.Path) : Except Refusal Settings := do
  ofValue ((← layers formats tree environment required).foldl Value.putLayer (.table none []))

/-- Loads the settings from all sources, in the usual formats. -/
def load : Files.Tree → Environment → Option Files.Path → Except Refusal Settings :=
  loadWith Format.standard

end UdsCatalog.Settings
