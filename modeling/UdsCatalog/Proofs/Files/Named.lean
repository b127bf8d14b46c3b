import Mathlib
import UdsCatalog.Proofs.Files.Tree

/-!
Files and the paths that lead to them. A path that leads to a file ends in the name of the file, and what
is written to a path is found there.
-/

namespace UdsCatalog.Files

/-! ### Parts of paths -/

/-- A part has no mark in it, and no characters but those of the whole. -/
theorem mem_of_mem_splitAt {α : Type} [BEq α] [LawfulBEq α] {mark c : α} {chars part : List α}
    (member : part ∈ splitAt mark chars) (inside : c ∈ part) : c ∈ chars ∧ c ≠ mark := by
  -- Each character either ends a part or goes to the first part of the rest.
  induction chars generalizing part with
  | nil =>
    obtain rfl : part = [] := by simpa [splitAt] using member
    cases inside
  | cons first rest ih =>
    rw [splitAt] at member
    split at member
    · -- A mark stands in front of an empty part.
      rcases List.mem_cons.mp member with rfl | member
      · cases inside
      · obtain ⟨here, apart⟩ := ih member inside
        exact ⟨List.mem_cons_of_mem first here, apart⟩
    · rename_i noMark
      have noMark : first ≠ mark := by simpa using noMark
      obtain ⟨front, parts, split⟩ := List.exists_cons_of_ne_nil (splitAt_ne_nil mark rest)
      rw [split] at member ih
      -- The first part has one character more than that of the rest.
      rcases List.mem_cons.mp member with rfl | member
      · rcases List.mem_cons.mp inside with rfl | inside
        · exact ⟨List.mem_cons_self, noMark⟩
        · obtain ⟨here, apart⟩ := ih List.mem_cons_self inside
          exact ⟨List.mem_cons_of_mem first here, apart⟩
      · obtain ⟨here, apart⟩ := ih (List.mem_cons_of_mem front member) inside
        exact ⟨List.mem_cons_of_mem first here, apart⟩

/-- A part of a path has no slash in it, and no characters but those of the path. -/
theorem Path.mem_of_mem_parts {path : Path} {part : String} {c : Char} (member : part ∈ path.parts)
    (inside : c ∈ part.toList) : c ∈ path.text.toList ∧ c ≠ '/' := by
  obtain ⟨chars, chars_mem, rfl⟩ := List.mem_map.mp member
  rw [String.toList_ofList] at inside
  exact mem_of_mem_splitAt chars_mem inside

/-- The name at the end of a path is one of its parts. -/
theorem mem_splitAt_of_lastName? {α : Type} [BEq α] {slash dot : α} {path name : List α}
    (last : lastName? slash dot path = some name) : name ∈ splitAt slash path := by
  simp only [lastName?] at last
  split at last
  · cases last
  · -- The last of the parts that are left is taken, unless it is dots.
    rename_i ends
    obtain ⟨-, same⟩ := Option.ite_none_left_eq_some.mp last
    obtain rfl := Option.some.inj same
    rcases List.mem_append.mp (List.mem_of_getLast? ends) with first | behind
    · exact List.mem_of_mem_take (List.mem_of_mem_filter first)
    · exact List.mem_of_mem_drop (List.mem_of_mem_filter behind)

/-- The file name of a path has no slash in it. -/
theorem Path.noSlash_of_fileName? {path : Path} {name : String} (named : path.fileName? = some name) :
    '/' ∉ name.toList := by
  obtain ⟨chars, last, rfl⟩ := Option.map_eq_some_iff.mp named
  rw [String.toList_ofList]
  exact fun slash => (mem_of_mem_splitAt (mem_splitAt_of_lastName? last) slash).2 rfl

/-- There is always a last part. -/
theorem Path.exists_parts_eq (path : Path) : ∃ front name, path.parts = front ++ [name] := by
  have filled : path.parts ≠ [] := by simp [Path.parts, splitAt_ne_nil]
  exact ⟨_, _, (List.dropLast_append_getLast filled).symm⟩

namespace Tree

variable {tree : Tree}

/-! ### Names at the ends of paths -/

/-- A part that a step can be taken to is a name, unless it is empty or dots. -/
theorem isName_of_descend {path : Path} {part : String} {place next : Place}
    (named : admissible path = .ok ()) (member : part ∈ path.parts) (filled : part ≠ "")
    (noDots : part ≠ "." ∧ part ≠ "..") (step : tree.descend place part = .ok next) :
    IsName part := by
  obtain ⟨noZero, -⟩ := admissible_eq_ok_iff.mp named
  have directory := entry?_of_descend step
  -- A step to a longer name fails.
  have short : part.utf8ByteSize ≤ longestName := by
    by_contra long
    have long : part.utf8ByteSize > longestName := Nat.lt_of_not_le long
    simp [descend, directory, filled, noDots, long] at step
  exact {
    noSlash := fun slash => (Path.mem_of_mem_parts member slash).2 rfl
    noZero := fun c inside => noZero c (Path.mem_of_mem_parts member inside).1
    notEmpty := filled
    noDots := noDots
    short := short }

/-- The places around one that steps lead to are directories, when those around the start are. -/
theorem entry?_around_of_descendAll {start place : Place} {parts : List String}
    (around : ∀ outer, outer <:+ start → outer ≠ start → tree.entry? outer = some .directory)
    (steps : tree.descendAll start parts = .ok place) :
    ∀ outer, outer <:+ place → outer ≠ place → tree.entry? outer = some .directory := by
  induction parts generalizing start with
  | nil =>
    obtain rfl : start = place := by simpa [descendAll] using steps
    exact around
  | cons part rest ih =>
    obtain ⟨next, step, steps⟩ := descendAll_cons.mp steps
    refine ih ?_ steps
    have here := entry?_of_descend step
    intro outer suffix apart
    -- A step stays, goes out, or goes in, and it starts in a directory.
    simp only [descend, here] at step
    split at step
    · obtain rfl := Except.ok.inj step
      exact around outer suffix apart
    -- Two dots leave the directory, and a directory within the outer one is one within this one, too.
    · split at step
      · obtain rfl := Except.ok.inj step
        refine around outer (suffix.trans (List.tail_suffix start)) ?_
        rintro rfl
        -- Only the root is not left.
        cases outer with
        | nil => exact apart rfl
        | cons name inner =>
          have shorter := suffix.length_le
          simp at shorter
      · split at step
        · cases step
        · obtain rfl := Except.ok.inj step
          -- Going in adds only the directory that the step started in.
          rcases List.suffix_cons_iff.mp suffix with same | suffix
          · exact absurd same apart
          · by_cases same : outer = start
            · rw [same, here]
            · exact around outer suffix same

/-- The places around one that a path leads to are directories. -/
theorem entry?_around_of_path {path : Path} {place : Place} {parts : List String}
    (steps : tree.descendAll (tree.start path) parts = .ok place) :
    ∀ outer, outer <:+ place → outer ≠ place → tree.entry? outer = some .directory := by
  refine entry?_around_of_descendAll (fun outer suffix _ => ?_) steps
  -- A path begins at the root or in the current directory.
  have begins : tree.start path <:+ tree.current := by
    rw [start]
    split
    · exact List.nil_suffix
    · exact List.suffix_refl _
  exact entry?_of_suffix_current (suffix.trans begins)

/-- A path that leads to a file ends in the name of the file, behind steps to the directory that the file
stands in. -/
theorem exists_name_of_find {path : Path} {place : Place} {content : Content}
    (found : tree.find path = .ok (place, .file content)) :
    ∃ front name outer, path.parts = front ++ [name] ∧ IsName name ∧
      tree.descendAll (tree.start path) front = .ok outer ∧ place = name :: outer := by
  obtain ⟨named, steps, standing⟩ := find_eq_ok_iff.mp found
  obtain ⟨front, name, parts⟩ := path.exists_parts_eq
  rw [parts, descendAll_append] at steps
  obtain ⟨outer, way, last⟩ := steps
  have last := descendAll_singleton.mp last
  have here := entry?_of_descend last
  -- An empty part and a dot stay in a directory, and two dots go to one.
  have filled : name ≠ "" := by
    rintro rfl
    rw [descend_empty here, Except.ok.injEq] at last
    rw [last, standing] at here
    cases here
  have noDot : name ≠ "." := by
    rintro rfl
    have stays : tree.descend outer "." = .ok outer := by simp [descend, here]
    rw [stays, Except.ok.injEq] at last
    rw [last, standing] at here
    cases here
  have noDots : name ≠ ".." := by
    rintro rfl
    have goes : tree.descend outer ".." = .ok outer.tail := by simp [descend, here]
    rw [goes, Except.ok.injEq] at last
    subst last
    -- The root is a directory, and so is what was entered on the way.
    cases outer with
    | nil =>
      rw [List.tail_nil, here] at standing
      cases standing
    | cons inner around =>
      have directory := entry?_around_of_path way around (List.suffix_cons inner around) (by simp)
      rw [List.tail_cons, directory] at standing
      cases standing
  -- Only a plain name is left, and it leads to a place within the directory.
  have plain := isName_of_descend named (by simp [parts]) filled ⟨noDot, noDots⟩ last
  exact ⟨front, name, outer, parts, plain, way, eq_of_descend filled ⟨noDot, noDots⟩ last⟩

/-! ### Writing to any path -/

/-- A path with a last name and no slash behind it ends in this name. -/
theorem exists_front_of_findLast {path : Path} {name : String} {place : Place}
    (found : tree.findLast path = .ok (place, some name, false)) :
    ∃ front, path.parts = front ++ [name] ∧ IsName name := by
  obtain ⟨⟨⟩, named, found⟩ := bind_eq_ok_iff.mp found
  obtain ⟨between, -, found⟩ := bind_eq_ok_iff.mp found
  split at found
  · cases found
  · rename_i last ends
    obtain ⟨next, step, found⟩ := bind_eq_ok_iff.mp found
    simp only [Except.ok.injEq, Prod.mk.injEq, Option.ite_none_left_eq_some, Option.some.injEq,
      Bool.or_eq_true, beq_iff_eq, not_or] at found
    obtain ⟨rfl, ⟨noDots, rfl⟩, noSlash⟩ := found
    obtain ⟨front, own, parts⟩ := path.exists_parts_eq
    -- Without a slash at the end the last part is filled.
    have filled : own ≠ "" := by
      rintro rfl
      rw [parts, List.getLast?_concat] at noSlash
      cases noSlash
    -- So it is also the last one of those that are filled.
    rw [parts, List.filter_append, List.filter_cons_of_pos (by simpa using filled),
      List.filter_nil, List.getLast?_concat, Option.some.injEq] at ends
    subst ends
    exact ⟨front, parts, isName_of_descend named (by simp [parts]) filled noDots step⟩

/-- What is written to a path stands under the name at the end of the path, where no directory stood, and it
is found there. -/
theorem exists_of_write {path : Path} {content : Content} {after : Tree}
    (written : tree.write path content = .ok after) :
    ∃ front name outer, path.parts = front ++ [name] ∧ IsName name ∧
      tree.descendAll (tree.start path) front = .ok outer ∧ tree.entry? (name :: outer) ≠ some .directory ∧
        after = tree.put (name :: outer) (.file content) ∧
          after.find path = .ok (name :: outer, .file content) := by
  -- A path without a name at its end, or with a slash behind the name, leads to no file.
  obtain ⟨name, front, parts, plain⟩ : ∃ name front, path.parts = front ++ [name] ∧ IsName name := by
    obtain ⟨⟨place, last, slashes⟩, found, written⟩ := bind_eq_ok_iff.mp written
    rcases last with - | name
    · cases written
    · cases slashes with
      | true => cases written
      | false => exact ⟨name, exists_front_of_findLast found⟩
  obtain ⟨outer, named, steps, here, free, rfl⟩ := (write_eq_ok_iff parts plain).mp written
  -- The way there is the same afterwards, since no directory has changed.
  have same := sameDirectories_put free content
  have way : tree.descendAll (tree.start path) path.parts = .ok (name :: outer) := by
    rw [parts, descendAll_append]
    exact ⟨outer, steps, descendAll_singleton.mpr (descend_name plain here)⟩
  refine ⟨front, name, outer, parts, plain, steps, free, rfl,
    find_eq_ok_iff.mpr ⟨named, same.descendAll_iff.mp way, ?_⟩⟩
  rw [entry?_put free, if_pos rfl]

/-- What is written to a text behind the path of a directory stands under the text in this directory, so the
text is a name. -/
theorem exists_name_of_write_join {directory : Path} {name : String} {outer : Place}
    {content : Content} {after : Tree} (noSlash : '/' ∉ name.toList)
    (found : tree.find directory = .ok (outer, .directory))
    (written : tree.write (directory.join ⟨name⟩) content = .ok after) :
    IsName name ∧ tree.entry? (name :: outer) ≠ some .directory ∧
      after = tree.put (name :: outer) (.file content) ∧
        after.find (directory.join ⟨name⟩) = .ok (name :: outer, .file content) := by
  obtain ⟨front, last, place, parts, plain, steps, free, rfl, standing⟩ := exists_of_write written
  -- The path ends in the text, and what is written to ends in a name.
  have ends := Path.getLast?_join_of_noSlash noSlash directory
  rw [parts, List.getLast?_concat, Option.some.injEq] at ends
  subst ends
  -- In front of the name stand steps to where the path of the directory leads.
  obtain ⟨before, own, way⟩ := exists_front_of_find plain found
  obtain ⟨rfl, -⟩ := List.append_inj' (own.symm.trans parts) rfl
  obtain rfl : outer = place := by
    rw [steps, Except.ok.injEq] at way
    exact way.symm
  exact ⟨plain, free, rfl, standing⟩

/-- A path leads to a file when one stands at its end. -/
theorem isFile_iff {path : Path} :
    tree.isFile path = true ↔ ∃ place content, tree.find path = .ok (place, .file content) := by
  -- What is looked up is what is found, if it is a file at all.
  unfold isFile
  constructor
  · intro file
    split at file
    · exact ⟨_, _, ‹_›⟩
    · cases file
  · rintro ⟨place, content, found⟩
    rw [found]

/-- Paths that lead to the same file end in its name. -/
theorem exists_name_of_find_eq {path file : Path} (same : tree.find file = tree.find path)
    (there : tree.isFile path = true) :
    ∃ name, IsName name ∧ file.parts.getLast? = some name ∧ path.parts.getLast? = some name := by
  obtain ⟨place, content, found⟩ := isFile_iff.mp there
  obtain ⟨front, name, outer, parts, plain, -, rfl⟩ := exists_name_of_find found
  obtain ⟨front', name', outer', parts', -, -, own⟩ := exists_name_of_find (same.trans found)
  -- The file stands under one name.
  obtain ⟨rfl, -⟩ := List.cons.inj own
  exact ⟨name, plain, by rw [parts', List.getLast?_concat], by rw [parts, List.getLast?_concat]⟩

/-- When a file was written, and none but itself could be found along a path, so it is afterwards. -/
theorem find_eq_of_write {path file : Path} {content : Content} {after : Tree}
    (written : tree.write path content = .ok after)
    (alone : tree.isFile file = true → tree.find file = tree.find path)
    (there : after.isFile file = true) : after.find file = after.find path := by
  obtain ⟨front, name, outer, parts, plain, steps, free, rfl, standing⟩ := exists_of_write written
  obtain ⟨place, held, found⟩ := isFile_iff.mp there
  by_cases own : place = name :: outer
  · subst own
    have same := (find_eq_ok_iff.mp found).2.2.symm.trans (find_eq_ok_iff.mp standing).2.2
    rw [found, standing, Option.some.inj same]
  · -- The file was there before, so it would be the one at the path already.
    have before := (find_put free content own).mp found
    have leads := before.symm.trans (alone (isFile_iff.mpr ⟨_, _, before⟩))
    obtain ⟨-, way, -⟩ := find_eq_ok_iff.mp leads.symm
    rw [parts, descendAll_append] at way
    obtain ⟨around, same, last⟩ := way
    rw [steps, Except.ok.injEq] at same
    subst same
    exact absurd (eq_of_descend plain.notEmpty plain.noDots (descendAll_singleton.mp last)) own

/-- Whether a file can be written to a path does not depend on what is written. -/
theorem exists_write_congr {path : Path} {content : Content} {after : Tree}
    (written : tree.write path content = .ok after) (other : Content) :
    ∃ made, tree.write path other = .ok made := by
  -- Whether a file can be written does not depend on what is written.
  obtain ⟨front, name, outer, parts, plain, steps, free, -, -⟩ := exists_of_write written
  obtain ⟨place, named, own, here, -, -⟩ := (write_eq_ok_iff parts plain).mp written
  obtain rfl : outer = place := by
    rw [steps, Except.ok.injEq] at own
    exact own
  exact ⟨_, (write_eq_ok_iff parts plain).mpr ⟨outer, named, steps, here, free, rfl⟩⟩

end Tree

end UdsCatalog.Files
