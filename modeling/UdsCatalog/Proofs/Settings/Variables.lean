import Mathlib
import UdsCatalog.Proofs.Catalog.Reading
import UdsCatalog.Proofs.Settings.Loading

/-!
What variables give for settings. The name of a variable leads to the setting, and its text is read as a truth
value or a number where it looks like one.
-/

namespace UdsCatalog.Settings

/-- The texts of the variables for a setting. Their names are the same in letters of any size. -/
def variablesFor (environment : Environment) (key : Key) : List String :=
  (environment.filter fun (name, _) => (wayOfVariable? name).map Step.ofText == some key.way).map (·.2)

/-- The variable of a setting leads to the setting. -/
theorem ofText_wayOfVariable (key : Key) :
    (wayOfVariable? key.variableName).map Step.ofText = some key.way := by
  cases key <;> decide +kernel

/-- No variable leads into a group but to a name in it. -/
def LeadsToNames (environment : Environment) (group : Group) : Prop :=
  ∀ name text way, (name, text) ∈ environment → wayOfVariable? name = some way →
    (Step.ofText way).head? = some (.name group.name) →
      ∃ last, Step.ofText way = [.name group.name, .name last]

/-- The variables of settings lead to names in groups, and all that are for no setting lead nowhere. -/
theorem leadsToNames_of_settings {environment : Environment} (group : Group)
    (each : ∀ entry ∈ environment,
      wayOfVariable? entry.1 = none ∨ ∃ key : Key, entry.1 = key.variableName) :
    LeadsToNames environment group := by
  intro name text way member leads steps
  -- The way of a setting has two names, the first of which is that of its group.
  rcases each (name, text) member with nowhere | ⟨key, rfl⟩
  · dsimp only at nowhere
    rw [nowhere] at leads
    cases leads
  · have whole := ofText_wayOfVariable key
    rw [leads, Option.map_some, Option.some.injEq] at whole
    rw [whole, Key.way, List.head?_cons, Option.some.injEq] at steps
    exact ⟨key.name, by rw [whole, Key.way, steps]⟩

/-- A text that is neither a truth value nor a number, in any spelling. -/
structure IsPlainText (text : String) : Prop where
  noTruth : Text.toSmall text ≠ "true" ∧ Text.toSmall text ≠ "false"
  noInteger : Numeral.readInt64? text.toList = none
  noNumber : FloatingPoint.ofText? text = none

/-- Variables give texts for some settings, at most one for each, and the texts are neither truth values nor
numbers. -/
structure VariablesGive (environment : Environment) (given : Key → Option String) : Prop where
  names : ∀ group, LeadsToNames environment group
  texts : ∀ key, variablesFor environment key = (given key).toList
  plain : ∀ key text, given key = some text → IsPlainText text

/-- A plain text is the value of its variable. -/
theorem IsPlainText.valueOfVariable_eq {text : String} (plain : IsPlainText text) :
    valueOfVariable text = .text text := by
  have noTruth : (Text.toSmall text == "true") = false := by simpa using plain.noTruth.1
  have noFalsehood : (Text.toSmall text == "false") = false := by simpa using plain.noTruth.2
  simp only [valueOfVariable, noTruth, noFalsehood, Bool.false_eq_true, if_false, plain.noInteger,
    plain.noNumber]

/-- The value of a variable holds no others. -/
theorem isScalar_valueOfVariable (text : String) : (valueOfVariable text).isScalar = true := by
  -- A variable becomes a truth value, a number or a text, whichever it reads as first.
  unfold valueOfVariable
  dsimp only
  split
  · rfl
  · split
    · rfl
    · split <;> rfl

/-- A variable has its value for the setting that it leads to, and nothing for others. -/
theorem said_variable (key : Key) (way text : String) :
    Value.said key (way, valueOfVariable text) =
      if Step.ofText way = key.way then [valueOfVariable text] else [] := by
  have apart : key.way ≠ [.name key.group.name] := by simp [Key.way]
  -- A value that holds no others has nothing for a setting in its group.
  have fields := Value.fields_of_isScalar (isScalar_valueOfVariable text)
  rw [Value.said]
  dsimp only
  split
  · rename_i whole
    rw [fields, if_neg (by rw [whole]; exact apart.symm)]
    rfl
  · rfl

/-- The layer of the environment has the values of the variables for a setting. -/
theorem saidBy_readEnvironment (environment : Environment) (key : Key) :
    Value.saidBy (readEnvironment environment) key =
      (variablesFor environment key).map valueOfVariable := by
  -- Variables that are for no setting are left out on both sides.
  induction environment with
  | nil => rfl
  | cons first rest ih =>
    obtain ⟨name, text⟩ := first
    have later : Value.saidBy (readEnvironment rest) key =
        (variablesFor rest key).map valueOfVariable := ih
    cases leads : wayOfVariable? name with
    | none =>
      have skipped : readEnvironment ((name, text) :: rest) = readEnvironment rest := by
        simp [readEnvironment, leads]
      have left : variablesFor ((name, text) :: rest) key = variablesFor rest key := by
        simp [variablesFor, leads]
      rw [skipped, left, later]
    | some way =>
      have read : readEnvironment ((name, text) :: rest) =
          (way, valueOfVariable text) :: readEnvironment rest := by
        simp [readEnvironment, leads]
      rw [read, Value.saidBy, List.flatMap_cons, ← Value.saidBy, later, said_variable]
      -- A variable speaks for this setting exactly when its way is the one of the key.
      by_cases own : Step.ofText way = key.way
      · simp [variablesFor, leads, own]
      · simp [variablesFor, leads, own]

/-- Variables that lead to names only are orderly entries of their layer. -/
theorem isOrderly_readEnvironment {environment : Environment} {group : Group}
    (names : LeadsToNames environment group) :
    ∀ entry ∈ readEnvironment environment, Value.IsOrderly group entry := by
  intro entry member
  rw [readEnvironment, List.mem_filterMap] at member
  obtain ⟨⟨name, text⟩, member, made⟩ := member
  obtain ⟨way, leads, rfl⟩ := Option.map_eq_some_iff.mp made
  refine ⟨fun steps => .inr (names name text way member leads steps), ?_⟩
  intro key _ value said
  -- The only value that it can have is its own.
  rw [said_variable] at said
  split at said
  · rw [List.mem_singleton.mp said]
    exact isScalar_valueOfVariable text
  · cases said

/-- The layer of the environment has the texts of the variables. -/
theorem VariablesGive.gives {environment : Environment} {given : Key → Option String}
    (told : VariablesGive environment given) : Gives (readEnvironment environment) given := by
  -- What is said of a key is what the variables for it hold.
  refine ⟨fun entry member group => isOrderly_readEnvironment (told.names group) entry member,
    fun key => ?_⟩
  rw [saidBy_readEnvironment, told.texts key]
  cases text : given key with
  | none => rfl
  | some own =>
    rw [Option.toList_some, List.map_singleton, (told.plain key own text).valueOfVariable_eq]
    rfl

/-! ### The variable of a setting -/

/-- A text is written as the value that it is read as: a truth value in small letters, an integer without a plus
sign or needless zeros, and any other number in its shortest form. All other texts are. -/
@[mk_iff]
structure KeepsSpelling (text : String) : Prop where
  truth : Text.toSmall text = "true" ∨ Text.toSmall text = "false" → Text.toSmall text = text
  whole : ∀ number, Numeral.readInt64? text.toList = some number → toString number = text
  number : Numeral.readInt64? text.toList = none →
    ∀ number, FloatingPoint.ofText? text = some number → number.plainText = text

/-- A variable is shown as its text exactly when the text keeps its spelling. -/
theorem shown_valueOfVariable_iff {text : String} :
    (valueOfVariable text).shown = text ↔ KeepsSpelling text := by
  have noNumbers : ∀ word ∈ ["true", "false"],
      Numeral.readInt64? word.toList = none ∧ FloatingPoint.ofText? word = none := by decide
  -- A truth value is a word in small letters, which is no number.
  have ofWord : ∀ word ∈ ["true", "false"], Text.toSmall text = word →
      (word = text ↔ KeepsSpelling text) := by
    intro word member small
    have noNumber := noNumbers word member
    have kept : Text.toSmall text = "true" ∨ Text.toSmall text = "false" := by simpa [small] using member
    constructor
    · -- The word is its own spelling in small letters.
      rintro rfl
      simp [keepsSpelling_iff, small, noNumber]
    · intro keeps
      exact small.symm.trans (keeps.truth kept)
  unfold valueOfVariable
  dsimp only
  split
  · rename_i truth
    exact ofWord "true" (by simp) (by simpa using truth)
  · rename_i noTruth
    split
    · rename_i falsehood
      exact ofWord "false" (by simp) (by simpa using falsehood)
    · -- Any other text is an integer, another number, or neither.
      rename_i noFalsehood
      have noTruth : Text.toSmall text ≠ "true" := by simpa using noTruth
      have noFalsehood : Text.toSmall text ≠ "false" := by simpa using noFalsehood
      split <;> simp [keepsSpelling_iff, Value.shown, *]

/-- The environment is the last of the layers. -/
theorem exists_layers_eq {formats : List Format} {tree : Files.Tree} {environment : Environment}
    {required : Option Files.Path} {made : List (Named Value)}
    (read : layers formats tree environment required = .ok made) :
    ∃ files, made = files ++ [readEnvironment environment] := by
  -- Whatever the files give, they come before it.
  obtain ⟨usual, -, read⟩ := bind_eq_ok_iff.mp read
  obtain ⟨user, -, read⟩ := bind_eq_ok_iff.mp read
  cases required with
  | none =>
    obtain rfl := Except.ok.inj read
    exact ⟨usual ++ [user, []], by simp⟩
  | some path =>
    obtain ⟨asked, -, read⟩ := bind_eq_ok_iff.mp read
    obtain rfl := Except.ok.inj read
    exact ⟨usual ++ [user, asked], by simp⟩

/-- A setting has the value of its variable, shown as text. This is the text of the variable exactly when that
keeps its spelling. -/
theorem get_eq_text_iff {tree : Files.Tree} {environment : Environment} {required : Option Files.Path}
    {settings : Settings} {key : Key} {text : String} (names : LeadsToNames environment key.group)
    (there : (key.variableName, text) ∈ environment)
    (alone : ∀ other ∈ variablesFor environment key, other = text)
    (loaded : load tree environment required = .ok settings) :
    settings.get key = some (valueOfVariable text).shown ∧
      (settings.get key = some text ↔ KeepsSpelling text) := by
  obtain ⟨made, read, loaded⟩ := bind_eq_ok_iff.mp loaded
  obtain ⟨files, rfl⟩ := exists_layers_eq read
  -- The variable is one of those for the setting, and all of them have its text.
  have member : text ∈ variablesFor environment key := by
    refine List.mem_map.mpr ⟨_, List.mem_filter.mpr ⟨there, ?_⟩, rfl⟩
    simp [ofText_wayOfVariable]
  have last : (variablesFor environment key).getLast? = some text := by
    rw [List.getLast?_eq_some_getLast (List.ne_nil_of_mem member)]
    exact congrArg some (alone _ (List.getLast_mem _))
  -- The layer of the environment goes over all others.
  have stands := Value.under?_putLayer (isOrderly_readEnvironment names)
    (files.foldl Value.putLayer (.table none []))
  rw [saidBy_readEnvironment, List.getLast?_map, last, Option.map_some, Option.some_or] at stands
  rw [List.foldl_append, List.foldl_cons, List.foldl_nil] at loaded
  -- So the setting is read from it, and nothing else can be.
  obtain ⟨shown, given, has⟩ := ofValue_eq_ok_iff.mp loaded key
  rw [Value.read_of_under? stands (isScalar_valueOfVariable text), Except.ok.injEq] at given
  have value : settings.get key = some (valueOfVariable text).shown := by
    rw [has, ← given, Option.some_or]
  exact ⟨value, by rw [value, Option.some.injEq, shown_valueOfVariable_iff]⟩

/-- A number in its shortest form is a suffix as it is written. -/
theorem get_eq_text_iff_shortest :
    ∃ settings, load .empty [(Key.suffix.variableName, "1.5")] none = .ok settings ∧
      settings.get .suffix = some "1.5" := by
  have names : LeadsToNames [(Key.suffix.variableName, "1.5")] .output :=
    leadsToNames_of_settings .output (by simp)
  have alone : ∀ other ∈ variablesFor [(Key.suffix.variableName, "1.5")] .suffix, other = "1.5" := by
    decide
  -- The shortest spelling of the number is how it is shown again.
  have keeps : KeepsSpelling "1.5" := shown_valueOfVariable_iff.mp (by decide +kernel)
  obtain ⟨settings, loaded, -⟩ : ∃ settings,
      load .empty [(Key.suffix.variableName, "1.5")] none = .ok settings ∧ True :=
    exists_eq_ok_of_any (by decide +kernel)
  exact ⟨settings, loaded, (get_eq_text_iff names List.mem_cons_self alone loaded).2.mpr keeps⟩

/-- A directory of digits loses the zeros in front of its name. -/
theorem load_changes_spelling :
    ∃ settings, load .empty [("UDSGEN__DEFINITIONS__DIR", "007")] none = .ok settings ∧
      settings.get .definitionDirectory = some "7" :=
  exists_eq_ok_of_any (by decide +kernel)

end UdsCatalog.Settings
