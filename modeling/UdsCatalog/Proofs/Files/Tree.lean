import Mathlib
import UdsCatalog.Named
import UdsCatalog.Proofs.Files.Path
import UdsCatalog.Proofs.Steps

/-!
Laws of the tree of files: where paths lead, and what writing a file and making directories change.
-/

namespace UdsCatalog.Files

namespace Tree

variable {tree other : Tree}

/-! ### What stands where -/

/-- The file at a place. -/
def fileAt? (tree : Tree) (place : Place) : Option Content :=
  match tree.entry? place with
  | some (.file content) => some content
  | _ => none

/-- The current directory and those around it are directories. -/
theorem entry?_of_suffix_current {place : Place} (around : place <:+ tree.current) :
    tree.entry? place = some .directory := by
  unfold entry?
  rw [if_pos around]

/-- Where no directory stands is neither the current directory nor around it. -/
theorem not_suffix_current_of_ne {place : Place} (free : tree.entry? place ≠ some .directory) :
    ¬ place <:+ tree.current :=
  fun around => free (entry?_of_suffix_current around)

/-- What is put at a place where no directory stood stands there, and nothing else changes. -/
theorem entry?_put {place : Place} (free : tree.entry? place ≠ some .directory) (entry : Entry)
    (asked : Place) :
    entry? (tree.put place entry) asked = if asked = place then some entry else tree.entry? asked := by
  -- What stood at the place is left out, and the new entry is met first.
  by_cases same : asked = place
  · subst same
    simp [put, entry?, not_suffix_current_of_ne free]
  · have differs : (asked == place) = false := beq_false_of_ne same
    simp [put, entry?, same, List.lookup_cons, differs, lookup_filter_ne same]

/-- A file that is put at a place is the only change among the files. -/
theorem fileAt?_put {place : Place} (free : tree.entry? place ≠ some .directory) (content : Content)
    (asked : Place) :
    (tree.put place (.file content)).fileAt? asked =
      if asked = place then some content else tree.fileAt? asked := by
  by_cases same : asked = place <;> simp [fileAt?, entry?_put free, same]

/-- A directory at a place where nothing stood is no change among the files. -/
theorem fileAt?_put_directory {place : Place} (missing : tree.entry? place = none) (asked : Place) :
    (tree.put place .directory).fileAt? asked = tree.fileAt? asked := by
  have free : tree.entry? place ≠ some .directory := by simp [missing]
  by_cases same : asked = place <;> simp [fileAt?, entry?_put free, same, missing]

/-! ### Where steps lead -/

/-- Only a directory can be left by a step. -/
theorem entry?_of_descend {place next : Place} {part : String}
    (step : tree.descend place part = .ok next) : tree.entry? place = some .directory := by
  unfold descend at step
  split at step
  · cases step
  · cases step
  · assumption

/-- In a directory all trees go the same way. -/
theorem descend_eq {place : Place} (here : tree.entry? place = some .directory)
    (there : other.entry? place = some .directory) (part : String) :
    tree.descend place part = other.descend place part := by
  simp only [descend, here, there]

/-- A name leads into a directory. -/
theorem descend_name {place : Place} {name : String} (plain : IsName name)
    (directory : tree.entry? place = some .directory) :
    tree.descend place name = .ok (name :: place) := by
  have short : ¬ name.utf8ByteSize > longestName := Nat.not_lt.mpr plain.short
  simp [descend, directory, plain.notEmpty, plain.noDots, short]

/-- An empty part leads nowhere else. -/
theorem descend_empty {place : Place} (directory : tree.entry? place = some .directory) :
    tree.descend place "" = .ok place := by
  simp [descend, directory]

/-- A part that leads somewhere leads to its name in the directory, unless it is empty or dots. -/
theorem eq_of_descend {place next : Place} {part : String} (filled : part ≠ "")
    (noDots : part ≠ "." ∧ part ≠ "..") (step : tree.descend place part = .ok next) :
    next = part :: place := by
  -- Of the branches of a step only the last one is left.
  have directory := entry?_of_descend step
  simp only [descend, directory, filled, noDots.1, noDots.2, beq_iff_eq, Bool.or_eq_true,
    or_self, if_false] at step
  split at step
  · cases step
  · exact (Except.ok.inj step).symm

/-- The first step is followed by the others. -/
theorem descendAll_cons {start place : Place} {part : String} {rest : List String} :
    tree.descendAll start (part :: rest) = .ok place ↔
      ∃ next, tree.descend start part = .ok next ∧ tree.descendAll next rest = .ok place := by
  rw [descendAll]
  cases tree.descend start part <;> simp

/-- Steps are followed by further steps. -/
theorem descendAll_append {start place : Place} {parts others : List String} :
    tree.descendAll start (parts ++ others) = .ok place ↔
      ∃ between, tree.descendAll start parts = .ok between ∧
        tree.descendAll between others = .ok place := by
  induction parts generalizing start with
  | nil => simp [descendAll]
  | cons part rest ih => grind [descendAll_cons]

/-- A single step. -/
theorem descendAll_singleton {start place : Place} {part : String} :
    tree.descendAll start [part] = .ok place ↔ tree.descend start part = .ok place := by
  simp [descendAll_cons, descendAll.eq_1]

/-- Steps that end in a directory start in one. -/
theorem entry?_of_descendAll {start place : Place} {parts : List String}
    (steps : tree.descendAll start parts = .ok place)
    (directory : tree.entry? place = some .directory) : tree.entry? start = some .directory := by
  -- Only from a directory can a step be taken, and without steps the start is the end.
  cases parts with
  | nil =>
    rw [descendAll, Except.ok.injEq] at steps
    rwa [steps]
  | cons part rest =>
    obtain ⟨next, step, -⟩ := descendAll_cons.mp steps
    exact entry?_of_descend step

/-- Empty parts on the way to a directory make no difference. -/
theorem descendAll_filter {start place : Place} {parts : List String}
    (directory : tree.entry? place = some .directory) :
    tree.descendAll start (parts.filter (· != "")) = .ok place ↔
      tree.descendAll start parts = .ok place := by
  induction parts generalizing start with
  | nil => rfl
  | cons part rest ih =>
    by_cases empty : part = ""
    · subst empty
      rw [List.filter_cons_of_neg (by simp), ih, descendAll_cons]
      -- The empty part asks for a directory, and the steps behind it begin in one.
      constructor
      · intro steps
        exact ⟨start, descend_empty (entry?_of_descendAll steps directory), steps⟩
      · rintro ⟨next, step, steps⟩
        rw [descend_empty (entry?_of_descend step), Except.ok.injEq] at step
        rwa [step]
    · have filled : (part != "") = true := by simpa using empty
      simp only [List.filter_cons, filled, if_true, descendAll_cons, ih]

/-- Two trees have the same directories. -/
def SameDirectories (tree other : Tree) : Prop :=
  ∀ place, tree.entry? place = some .directory ↔ other.entry? place = some .directory

/-- In trees with the same directories the same steps lead to the same places. -/
theorem SameDirectories.descendAll_iff (same : SameDirectories tree other) {start place : Place}
    {parts : List String} :
    tree.descendAll start parts = .ok place ↔ other.descendAll start parts = .ok place := by
  induction parts generalizing start with
  | nil => rfl
  | cons part rest ih =>
    -- Whoever can take the first step stands in a directory, which both trees have.
    have first : ∀ next, tree.descend start part = .ok next ↔ other.descend start part = .ok next := by
      intro next
      constructor
      · intro step
        have here := entry?_of_descend step
        rwa [← descend_eq here ((same start).mp here)]
      · intro step
        have there := entry?_of_descend step
        rwa [descend_eq ((same start).mpr there) there]
    simp only [descendAll_cons, first, ih]

/-- A file that is put where no directory stands leaves the directories as they are. -/
theorem sameDirectories_put {place : Place} (free : tree.entry? place ≠ some .directory)
    (content : Content) : SameDirectories tree (tree.put place (.file content)) := by
  intro asked
  rw [entry?_put free]
  by_cases same : asked = place
  · simp [same, free]
  · rw [if_neg same]

/-! ### Where paths lead -/

/-- A path leads to what stands behind its parts. -/
theorem find_eq_ok_iff {path : Path} {place : Place} {entry : Entry} :
    tree.find path = .ok (place, entry) ↔ admissible path = .ok () ∧
      tree.descendAll (tree.start path) path.parts = .ok place ∧ tree.entry? place = some entry := by
  -- A path is looked at, then followed, and last it is asked what stands there.
  simp only [find, bind_eq_ok_iff]
  constructor
  · rintro ⟨⟨⟩, named, last, steps, found⟩
    split at found
    · obtain ⟨rfl, rfl⟩ := Prod.mk.inj (Except.ok.inj found)
      exact ⟨named, steps, ‹_›⟩
    · cases found
  · rintro ⟨named, steps, standing⟩
    exact ⟨(), named, place, steps, by rw [standing]⟩

/-- A path leads to a directory when one stands at its end. -/
theorem isDirectory_iff {path : Path} :
    tree.isDirectory path = true ↔ ∃ place, tree.find path = .ok (place, .directory) := by
  -- The test looks up the path and forgets where it led to.
  unfold isDirectory
  constructor
  · intro directory
    split at directory
    · exact ⟨_, ‹_›⟩
    · cases directory
  · rintro ⟨place, found⟩
    rw [found]

/-- A path leads to a text when a file with the text stands at its end. -/
theorem readText_eq_ok_iff {path : Path} {text : String} :
    tree.readText path = .ok text ↔ ∃ place, tree.find path = .ok (place, .file (.text text)) := by
  -- Of what can be found only a file that holds a text is read.
  simp only [readText, bind_eq_ok_iff]
  constructor
  · rintro ⟨⟨place, entry⟩, found, read⟩
    rcases entry with - | ⟨text | bytes⟩ <;> cases read
    exact ⟨place, found⟩
  · rintro ⟨place, found⟩
    exact ⟨_, found, rfl⟩

/-- What is read as a text is a file. -/
theorem isFile_of_readText {path : Path} {text : String} (read : tree.readText path = .ok text) :
    tree.isFile path = true := by
  obtain ⟨place, found⟩ := readText_eq_ok_iff.mp read
  rw [isFile, found]

/-- A file that does not read as a text holds bytes that are none. -/
theorem readText_of_isFile {path : Path} (file : tree.isFile path = true) :
    (∃ text, tree.readText path = .ok text) ∨ tree.readText path = .error .notText := by
  -- A file is found, so whether it holds a text is all that is left to ask.
  rw [isFile] at file
  split at file
  next content found =>
    rw [readText, found]
    cases content with
    | text text => exact .inl ⟨text, rfl⟩
    | bytes bytes => exact .inr rfl
  next => cases file

/-- A path that ends in a name leads to a place of that name. -/
theorem exists_outer_of_find {path : Path} {name : String} {place : Place} {entry : Entry}
    (ends : path.parts.getLast? = some name) (plain : IsName name)
    (found : tree.find path = .ok (place, entry)) : ∃ outer, place = name :: outer := by
  obtain ⟨-, steps, -⟩ := find_eq_ok_iff.mp found
  -- The last step goes to the name, since the name is neither empty nor dots.
  obtain ⟨front, parts⟩ := List.getLast?_eq_some_iff.mp ends
  rw [parts, descendAll_append] at steps
  obtain ⟨outer, -, last⟩ := steps
  exact ⟨outer, eq_of_descend plain.notEmpty plain.noDots (descendAll_singleton.mp last)⟩

/-- A path can name something when it is not empty and has no zero in it. -/
theorem admissible_eq_ok_iff {path : Path} :
    admissible path = .ok () ↔ (∀ c ∈ path.text.toList, c.toNat ≠ 0) ∧ path.text ≠ "" := by
  -- The two demands are made one after the other, and each has a fault of its own.
  unfold admissible
  split
  · rename_i zero
    obtain ⟨c, member, isZero⟩ := List.any_eq_true.mp zero
    simp only [reduceCtorEq, false_iff]
    rintro ⟨noZero, -⟩
    exact noZero c member (by simpa using isZero)
  · rename_i noZero
    have noZero : ∀ c ∈ path.text.toList, c.toNat ≠ 0 := by simpa using noZero
    rw [and_iff_right noZero]
    by_cases empty : path.text = "" <;> simp [empty]

/-- A name that is joined to a path that can name something gives another one. -/
theorem admissible_join {directory : Path} {name : String} (plain : IsName name)
    (named : admissible directory = .ok ()) : admissible (directory.join ⟨name⟩) = .ok () := by
  obtain ⟨noZero, -⟩ := admissible_eq_ok_iff.mp named
  rw [admissible_eq_ok_iff]
  -- Neither part brings a zero, and the slash between them is none.
  refine ⟨?_, Path.join_ne_empty directory plain.notEmpty⟩
  intro c member
  rcases Path.mem_join member with inBase | rfl | inName
  · exact noZero c inBase
  · decide
  · exact plain.noZero c inName

/-- A name that is joined to a path that can name something begins where the path does. -/
theorem start_join {directory : Path} {name : String} (plain : IsName name)
    (named : admissible directory = .ok ()) :
    tree.start (directory.join ⟨name⟩) = tree.start directory := by
  obtain ⟨-, filled⟩ := admissible_eq_ok_iff.mp named
  rw [start, start, Path.isAbsolute_join plain.isAbsolute_eq filled]

/-! ### Writing a file -/

/-- Paths begin where they did, whatever is put into the tree. -/
theorem start_put (place : Place) (entry : Entry) (path : Path) :
    (tree.put place entry).start path = tree.start path := rfl

/-- A file that is put at another place than a path leads to makes no difference to the path. -/
theorem find_put {place found : Place} {entry : Entry} {path : Path}
    (free : tree.entry? place ≠ some .directory) (content : Content) (apart : found ≠ place) :
    (tree.put place (.file content)).find path = .ok (found, entry) ↔
      tree.find path = .ok (found, entry) := by
  rw [find_eq_ok_iff, find_eq_ok_iff, start_put, ← (sameDirectories_put free content).descendAll_iff,
    entry?_put free, if_neg apart]

/-- A file that is put where no directory stands leaves the directories as they are. -/
theorem isDirectory_put {place : Place} (free : tree.entry? place ≠ some .directory)
    (content : Content) (path : Path) :
    (tree.put place (.file content)).isDirectory path = tree.isDirectory path := by
  have same := sameDirectories_put free content
  rw [Bool.eq_iff_iff, isDirectory_iff, isDirectory_iff]
  simp only [find_eq_ok_iff, start_put, ← same.descendAll_iff, ← same _]

/-- A file is read as before when a file of another name is put somewhere. -/
theorem readText_put {name other : String} {outer : Place} {path : Path} {text : String}
    (free : tree.entry? (other :: outer) ≠ some .directory) (content : Content)
    (ends : path.parts.getLast? = some name) (plain : IsName name) (apart : name ≠ other) :
    (tree.put (other :: outer) (.file content)).readText path = .ok text ↔
      tree.readText path = .ok text := by
  simp only [readText_eq_ok_iff]
  -- On both sides the path leads to a place of its own name.
  constructor
  · rintro ⟨place, found⟩
    obtain ⟨around, rfl⟩ := exists_outer_of_find ends plain found
    exact ⟨_, (find_put free content (by simp [apart])).mp found⟩
  · rintro ⟨place, found⟩
    obtain ⟨around, rfl⟩ := exists_outer_of_find ends plain found
    exact ⟨_, (find_put free content (by simp [apart])).mpr found⟩

/-- A path that ends in a name leads to the directory in front of it. -/
theorem findLast_eq_ok_iff {path : Path} {front : List String} {name : String} {place : Place}
    {last : Option String} {slashes : Bool} (ends : path.parts = front ++ [name])
    (plain : IsName name) :
    tree.findLast path = .ok (place, last, slashes) ↔
      admissible path = .ok () ∧ tree.descendAll (tree.start path) front = .ok place ∧
        tree.entry? place = some .directory ∧ last = some name ∧ slashes = false := by
  -- The name is no part that is left out, and it tells of no slash behind it.
  have filled : (name != "") = true := by simpa using plain.notEmpty
  have noDots : (name == "." || name == "..") = false := by simp [plain.noDots]
  have noSlash : (some name == some "") = false := by simp [plain.notEmpty]
  simp only [findLast, bind_eq_ok_iff, ends, List.filter_append, List.filter_cons, filled, if_true,
    List.filter_nil, List.dropLast_concat, List.getLast?_concat, noDots, Bool.false_eq_true, if_false,
    noSlash, Except.ok.injEq, Prod.mk.injEq]
  constructor
  · rintro ⟨⟨⟩, named, outer, steps, next, step, rfl, rfl, rfl⟩
    have directory := entry?_of_descend step
    exact ⟨named, (descendAll_filter directory).mp steps, directory, rfl, rfl⟩
  · rintro ⟨named, steps, directory, rfl, rfl⟩
    exact ⟨(), named, place, (descendAll_filter directory).mpr steps, name :: place,
      descend_name plain directory, rfl, rfl, rfl⟩

/-- A file is written into a directory that exists, where no directory stands in its place. -/
theorem write_eq_ok_iff {path : Path} {front : List String} {name : String} {content : Content}
    {after : Tree} (ends : path.parts = front ++ [name]) (plain : IsName name) :
    tree.write path content = .ok after ↔ ∃ place,
      admissible path = .ok () ∧ tree.descendAll (tree.start path) front = .ok place ∧
        tree.entry? place = some .directory ∧ tree.entry? (name :: place) ≠ some .directory ∧
          after = tree.put (name :: place) (.file content) := by
  -- Writing finds the last name, looks whether a directory is in the way, and puts the file.
  simp only [write, bind_eq_ok_iff]
  constructor
  · rintro ⟨⟨place, last, slashes⟩, found, written⟩
    obtain ⟨named, steps, directory, rfl, rfl⟩ := (findLast_eq_ok_iff ends plain).mp found
    refine ⟨place, named, steps, directory, ?_⟩
    dsimp only at written
    split at written
    · cases written
    · rename_i free
      exact ⟨free, (Except.ok.inj written).symm⟩
  · rintro ⟨place, named, steps, directory, free, rfl⟩
    refine ⟨_, (findLast_eq_ok_iff ends plain).mpr ⟨named, steps, directory, rfl, rfl⟩, ?_⟩
    dsimp only
    split
    · contradiction
    · rfl

/-- In front of a name that is joined to a path stand steps to where the path leads. -/
theorem exists_front_of_find {directory : Path} {name : String} {place : Place} (plain : IsName name)
    (found : tree.find directory = .ok (place, .directory)) :
    ∃ front, (directory.join ⟨name⟩).parts = front ++ [name] ∧
      tree.descendAll (tree.start (directory.join ⟨name⟩)) front = .ok place := by
  obtain ⟨named, steps, -⟩ := find_eq_ok_iff.mp found
  rw [start_join plain named]
  obtain ⟨front, parts, own | own⟩ := Path.parts_join directory plain.isAbsolute_eq
  · rw [own] at steps
    exact ⟨front, by rw [parts, plain.parts_eq], steps⟩
  · -- The empty part behind a slash at the end leads nowhere else.
    rw [own, descendAll_append] at steps
    obtain ⟨before, steps, last⟩ := steps
    have last := descendAll_singleton.mp last
    rw [descend_empty (entry?_of_descend last), Except.ok.injEq] at last
    exact ⟨front, by rw [parts, plain.parts_eq], by rw [steps, last]⟩

/-- A name behind a path that leads to a directory leads to what stands under it there. -/
theorem find_join {directory : Path} {name : String} {place : Place} {entry : Entry}
    (plain : IsName name) (found : tree.find directory = .ok (place, .directory))
    (standing : tree.entry? (name :: place) = some entry) :
    tree.find (directory.join ⟨name⟩) = .ok (name :: place, entry) := by
  obtain ⟨named, -, here⟩ := find_eq_ok_iff.mp found
  obtain ⟨front, parts, steps⟩ := exists_front_of_find plain found
  refine find_eq_ok_iff.mpr ⟨admissible_join plain named, ?_, standing⟩
  rw [parts, descendAll_append]
  exact ⟨place, steps, descendAll_singleton.mpr (descend_name plain here)⟩

/-- A file can be written into a directory that exists when no directory stands in its place. -/
theorem exists_write_join {directory : Path} {name : String} (plain : IsName name)
    (exists_ : tree.isDirectory directory = true)
    (free : tree.isDirectory (directory.join ⟨name⟩) = false) (content : Content) :
    ∃ after, tree.write (directory.join ⟨name⟩) content = .ok after := by
  obtain ⟨place, found⟩ := isDirectory_iff.mp exists_
  -- The name leads into the directory, and what stands there is no directory.
  obtain ⟨named, -, here⟩ := find_eq_ok_iff.mp found
  obtain ⟨front, parts, steps⟩ := exists_front_of_find plain found
  have free : tree.entry? (name :: place) ≠ some .directory := by
    intro standing
    have directory := isDirectory_iff.mpr ⟨_, find_join plain found standing⟩
    rw [free] at directory
    cases directory
  exact ⟨_, (write_eq_ok_iff parts plain).mpr
    ⟨place, admissible_join plain named, steps, here, free, rfl⟩⟩

/-- What is written under a name stands in a directory under this name, and it is found there. -/
theorem exists_of_write_join {directory : Path} {name : String} {content : Content} {after : Tree}
    (plain : IsName name) (written : tree.write (directory.join ⟨name⟩) content = .ok after) :
    ∃ place, tree.entry? (name :: place) ≠ some .directory ∧
      after = tree.put (name :: place) (.file content) ∧
        after.find (directory.join ⟨name⟩) = .ok (name :: place, .file content) := by
  obtain ⟨front, parts, -⟩ := Path.parts_join directory plain.isAbsolute_eq
  rw [plain.parts_eq] at parts
  obtain ⟨place, named, steps, here, free, rfl⟩ := (write_eq_ok_iff parts plain).mp written
  -- The way there is the same afterwards, since no directory has changed.
  have same := sameDirectories_put free content
  refine ⟨place, free, rfl, find_eq_ok_iff.mpr ⟨named, ?_, ?_⟩⟩
  · rw [start_put, ← same.descendAll_iff, parts, descendAll_append]
    exact ⟨place, steps, descendAll_singleton.mpr (descend_name plain here)⟩
  · rw [entry?_put free, if_pos rfl]

/-! ### Making directories -/

/-- A directory is made where nothing stood. -/
theorem exists_of_makeDirectory {path : Path} {made : Tree} (done : tree.makeDirectory path = .ok made) :
    ∃ place, tree.entry? place = none ∧ made = tree.put place .directory := by
  -- Something that is there already ends it with a fault.
  unfold makeDirectory at done
  obtain ⟨⟨place, last, slashes⟩, -, done⟩ := bind_eq_ok_iff.mp done
  cases last with
  | none => cases done
  | some name =>
    dsimp only at done
    split at done
    · cases done
    · exact ⟨_, ‹_›, (Except.ok.inj done).symm⟩

/-- Where a directory stands none is made. -/
theorem makeDirectory_of_isDirectory {path : Path} (directory : tree.isDirectory path = true) :
    tree.makeDirectory path = .error .alreadyExists := by
  obtain ⟨place, found⟩ := isDirectory_iff.mp directory
  obtain ⟨named, steps, here⟩ := find_eq_ok_iff.mp found
  rw [← descendAll_filter here] at steps
  have filled : "" ∉ path.parts.filter (· != "") := by simp
  revert steps filled
  simp only [makeDirectory, findLast, named]
  generalize path.parts.filter (· != "") = parts
  intro steps filled
  -- The last part is what would be made; without one it is where the path begins.
  rcases List.eq_nil_or_concat parts with rfl | ⟨front, name, rfl⟩
  · rfl
  · rw [List.concat_eq_append] at steps filled ⊢
    obtain ⟨outer, steps, last⟩ := descendAll_append.mp steps
    have last := descendAll_singleton.mp last
    have filled : name ≠ "" := fun empty => filled (by simp [empty])
    simp only [List.dropLast_concat, List.getLast?_concat, steps, last, Bind.bind, Except.bind]
    by_cases dots : name = "." ∨ name = ".."
    · simp [dots]
    · -- The name is that of the directory, which stands there already.
      rw [not_or] at dots
      have own := eq_of_descend filled dots last
      simp [dots, ← own, here]

/-- Making a directory that exists changes nothing. -/
theorem makeDirectories_of_isDirectory {path : Path} (directory : tree.isDirectory path = true) :
    tree.makeDirectories path = (.ok (), tree) := by
  rw [makeDirectories, makeDirectoriesWithin, makeDirectory_of_isDirectory directory]
  simp [directory]

/-- Making directories leaves all files as they are, whether it succeeds or not. -/
theorem fileAt?_makeDirectoriesWithin (room : Nat) (tree : Tree) (path : Path) (place : Place) :
    (makeDirectoriesWithin room tree path).2.fileAt? place = tree.fileAt? place := by
  have step : ∀ {tree made : Tree} {path : Path}, tree.makeDirectory path = .ok made →
      made.fileAt? place = tree.fileAt? place := by
    intro tree made path done
    obtain ⟨free, missing, rfl⟩ := exists_of_makeDirectory done
    exact fileAt?_put_directory missing place
  -- Each directory is made by one such step, those above it by the induction.
  induction room generalizing tree path with
  | zero => rfl
  | succ room ih =>
    rw [makeDirectoriesWithin]
    split
    · rfl
    · split
      · exact step ‹_›
      · split
        · rfl
        · -- What was made above the directory is no file either.
          rename_i parent _
          have above := ih tree parent
          split
          · rename_i failed
            rwa [failed] at above
          · rename_i done
            rw [done] at above
            split
            · rw [← above]
              exact step ‹_›
            · exact above
      · rfl

/-- Making directories leaves all files as they are, whether it succeeds or not. -/
theorem fileAt?_makeDirectories (tree : Tree) (path : Path) (place : Place) :
    (tree.makeDirectories path).2.fileAt? place = tree.fileAt? place :=
  fileAt?_makeDirectoriesWithin _ tree path place

end Tree

end UdsCatalog.Files
