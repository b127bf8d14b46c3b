import Mathlib
import UdsCatalog.Generation.Output
import UdsCatalog.Proofs.Files.Tree

/-!
What generating does to a tree of files: each template that is added and rendered gives one file, and a
template that fails leaves the tree as it is.
-/

namespace UdsCatalog.Generation

variable {engine : Engine} {moment first second : engine.Moment} {catalog : Catalog} {tree after : Files.Tree}

/-! ### Work -/

namespace Work

variable {α β : Type}

/-- Does some work on a tree: its result, and the tree that it leaves. -/
def on (work : Work α) (tree : Files.Tree) : Except Failure α × Files.Tree := work.run.run tree

/-- One step and another succeed when each of them does, the second on the tree that the first leaves. -/
theorem on_bind_eq_ok_iff {step : Work α} {next : α → Work β} {result : β} :
    on (step >>= next) tree = (.ok result, after) ↔
      ∃ value between, on step tree = (.ok value, between) ∧
        on (next value) between = (.ok result, after) :=
  run_bind_eq_ok_iff

/-- One step and another fail when the first does, or the second on the tree that the first leaves. -/
theorem on_bind_eq_error_iff {step : Work α} {next : α → Work β} {failure : Failure} :
    on (step >>= next) tree = (.error failure, after) ↔
      on step tree = (.error failure, after) ∨
        ∃ value between, on step tree = (.ok value, between) ∧
          on (next value) between = (.error failure, after) :=
  run_bind_eq_error_iff

/-- A result leaves the tree as it is. -/
theorem on_pure (value : α) (tree : Files.Tree) : on (pure value) tree = (.ok value, tree) := rfl

/-- A failure leaves the tree as it is. -/
theorem on_throw (failure : Failure) (tree : Files.Tree) :
    on (throw failure : Work α) tree = (.error failure, tree) := rfl

/-- The tree is read as it is. -/
theorem on_get (tree : Files.Tree) : on (get : Work Files.Tree) tree = (.ok tree, tree) := rfl

/-- What is done with the tree is done with this one. -/
theorem on_get_bind (next : Files.Tree → Work α) (tree : Files.Tree) :
    on (get >>= next) tree = on (next tree) tree := rfl

/-- Work succeeds with what its run gives. Failures cannot be compared, but results can. -/
theorem on_eq_ok_iff_toOption {work : Work α} {value : α} :
    on work tree = (.ok value, after) ↔
      (on work tree).1.toOption = some value ∧ (on work tree).2 = after := by
  rcases on work tree with ⟨failure | result, left⟩ <;> simp [Except.toOption]

/-- Work fails where its run gives nothing. -/
theorem exists_on_eq_error_iff_toOption {work : Work α} :
    (∃ failure, on work tree = (.error failure, after)) ↔
      (on work tree).1.toOption = none ∧ (on work tree).2 = after := by
  rcases on work tree with ⟨failure | result, left⟩ <;> simp [Except.toOption]

end Work

open Work

/-- A step that leaves the files alone gives its result. -/
theorem on_outcome {α : Type} (result : Except Failure α) (tree : Files.Tree) :
    on (outcome result) tree = (result, tree) := by
  cases result <;> rfl

/-- Writing a file gives the tree that the tree itself gives, or leaves it as it is. -/
theorem on_writeFile (path : Files.Path) (text : String) (tree : Files.Tree) :
    on (writeFile path text) tree =
      match tree.write path (.text text) with
      | .ok after => (.ok (), after)
      | .error fault => (.error (.files fault), tree) := by
  -- The tree is stored again only when the write gives a new one.
  rw [writeFile, on_get_bind]
  cases tree.write path (.text text) <;> rfl

/-- A file is written when the tree lets it be. -/
theorem on_writeFile_eq_ok_iff {path : Files.Path} {text : String} :
    on (writeFile path text) tree = (.ok (), after) ↔ tree.write path (.text text) = .ok after := by
  rw [on_writeFile]
  cases tree.write path (.text text) <;> simp

/-- A file that cannot be written leaves the tree as it is. -/
theorem eq_of_on_writeFile_error {path : Files.Path} {text : String} {failure : Failure}
    (failed : on (writeFile path text) tree = (.error failure, after)) : after = tree := by
  rw [on_writeFile] at failed
  cases written : tree.write path (.text text) <;> simp_all

/-- Making directories gives the tree that the tree itself gives. -/
theorem on_makeDirectories (path : Files.Path) (tree : Files.Tree) :
    on (makeDirectories path) tree =
      ((tree.makeDirectories path).1.mapError Failure.files, (tree.makeDirectories path).2) := by
  -- Directories made before one that cannot be made stay, so the tree is stored either way.
  rw [makeDirectories, on_get_bind]
  rcases tree.makeDirectories path with ⟨fault | ⟨⟩, made⟩ <;> rfl

/-- Directories are made when the tree lets them be. -/
theorem on_makeDirectories_eq_ok_iff {path : Files.Path} :
    on (makeDirectories path) tree = (.ok (), after) ↔
      tree.makeDirectories path = (.ok (), after) := by
  rw [on_makeDirectories]
  rcases tree.makeDirectories path with ⟨fault | ⟨⟩, made⟩ <;> simp [Except.mapError]

/-! ### Names of files -/

/-- What stands in front of a suffix is the text without the suffix, when something stands there. -/
theorem stem?_eq_some_iff {suffix text stem : String} :
    stem? suffix text = some stem ↔ text = stem ++ suffix ∧ stem ≠ "" := by
  simp only [stem?, Option.ite_none_right_eq_some, Option.some.injEq, Bool.and_eq_true,
    decide_eq_true_eq, List.isSuffixOf_iff_suffix]
  constructor
  · rintro ⟨⟨ends, longer⟩, rfl⟩
    obtain ⟨front, chars⟩ := ends
    have length : text.toList.length - suffix.toList.length = front.length := by
      rw [← chars, List.length_append]
      omega
    -- The text is longer than the suffix, so something stands in front of it.
    have filled : front ≠ [] := by
      rintro rfl
      rw [← chars] at longer
      simp at longer
    -- As many characters are taken as stand in front of the suffix.
    rw [length, ← chars, List.take_left]
    refine ⟨String.toList_injective ?_, by simpa using filled⟩
    rw [String.toList_append, String.toList_ofList, chars]
  · rintro ⟨rfl, filled⟩
    -- A stem that is not empty makes the text longer than its suffix.
    have front : stem.toList ≠ [] := by simpa using filled
    have positive : 0 < stem.toList.length := List.length_pos_iff.mpr front
    rw [String.toList_append, List.length_append]
    refine ⟨⟨List.suffix_append _ _, by omega⟩, ?_⟩
    rw [Nat.add_sub_cancel, List.take_left, String.ofList_toList]

/-- A template gives a file of its own name without the suffix, when it has a name with the suffix and
something in front of it. -/
theorem outputFileName_eq_ok_iff {template : Files.Path} {suffix file : String} :
    outputFileName template suffix = .ok file ↔
      template.fileName? = some (file ++ suffix) ∧ file ≠ "" := by
  -- A path without a last name gives no file, and a last name is cut at the suffix.
  rw [outputFileName, stemOrRefuse]
  cases template.fileName? with
  | none => simp
  | some name =>
    rw [Option.bind_some, Option.some.injEq, ← stem?_eq_some_iff]
    cases stem? suffix name <;> simp

/-- A template ends in a name of its own, and the file that it gives has this name without the suffix. -/
structure GivesFile (template last file : String) : Prop where
  relative : (⟨template⟩ : Files.Path).isAbsolute = false
  ends : (⟨template⟩ : Files.Path).parts.getLast? = some last
  lastPlain : Files.IsName last
  filePlain : Files.IsName file
  stem : stem? templateSuffix last = some file

/-- The template for declarations gives the file of declarations. -/
theorem givesFile_header : GivesFile headerName "uds_def.h.template" "uds_def.h" :=
  ⟨by decide, by decide, by decide, by decide, by decide⟩

/-- The template for definitions gives the file of definitions. -/
theorem givesFile_source : GivesFile sourceName "uds_def.cpp.template" "uds_def.cpp" :=
  ⟨by decide, by decide, by decide, by decide, by decide⟩

namespace GivesFile

variable {template last file : String}

/-- The template gives its file. -/
theorem outputFileName_eq (gives : GivesFile template last file) :
    outputFileName ⟨template⟩ templateSuffix = .ok file := by
  rw [outputFileName, stemOrRefuse, gives.lastPlain.fileName?_eq gives.ends, Option.bind_some, gives.stem]

/-- In every directory the template ends in its own name. -/
theorem ends_join (gives : GivesFile template last file) (root : Files.Path) :
    (root.join ⟨template⟩).parts.getLast? = some last := by
  -- What a relative path is joined to stands in front of its parts.
  obtain ⟨front, parts, -⟩ := Files.Path.parts_join root gives.relative
  rw [parts, List.getLast?_append, gives.ends, Option.some_or]

/-- In every directory the template gives its file. -/
theorem outputFileName_join (gives : GivesFile template last file) (root : Files.Path) :
    outputFileName (root.join ⟨template⟩) templateSuffix = .ok file := by
  rw [outputFileName, stemOrRefuse, gives.lastPlain.fileName?_eq (gives.ends_join root),
    Option.bind_some, gives.stem]

end GivesFile

/-! ### One template -/

section One

variable {source : TemplateSource} {directory : Files.Path} {session : engine.Library} {name : String}

/-- One of the two templates gives its file when it can be added and rendered, and its text written. -/
theorem GivesFile.generateOne_eq_ok_iff {last file : String} (gives : GivesFile name last file)
    {output : Files.Path} {next : engine.Library} :
    on (engine.generateOne moment catalog source directory session name) tree =
        (.ok (output, next), after) ↔
      engine.addFixed session tree source name = (.ok (), next) ∧ output = directory.join ⟨file⟩ ∧
        ∃ text, engine.renderCatalog next moment name catalog = .ok text ∧
          tree.write (directory.join ⟨file⟩) (.text text) = .ok after := by
  -- Each step but the last one leaves the tree as it is.
  rw [Engine.generateOne, on_get_bind]
  rcases engine.addFixed session tree source name with ⟨added, later⟩
  simp only [on_bind_eq_ok_iff, on_outcome, on_pure, gives.outputFileName_eq, Prod.mk.injEq,
    Except.ok.injEq]
  constructor
  · rintro ⟨⟨⟩, _, ⟨rfl, rfl⟩, text, _, ⟨rendered, rfl⟩, _, _, ⟨rfl, rfl⟩, ⟨⟩, _, written,
      ⟨rfl, rfl⟩, rfl⟩
    exact ⟨⟨rfl, rfl⟩, rfl, text, rendered, on_writeFile_eq_ok_iff.mp written⟩
  · rintro ⟨⟨rfl, rfl⟩, rfl, text, rendered, written⟩
    exact ⟨(), _, ⟨rfl, rfl⟩, text, _, ⟨rendered, rfl⟩, file, _, ⟨rfl, rfl⟩, (), _,
      on_writeFile_eq_ok_iff.mpr written, ⟨rfl, rfl⟩, rfl⟩

/-- One of the two templates that fails leaves the tree as it is. -/
theorem eq_of_generateOne_error {failure : Failure}
    (failed : on (engine.generateOne moment catalog source directory session name) tree =
      (.error failure, after)) : after = tree := by
  rw [Engine.generateOne, on_get_bind] at failed
  rcases engine.addFixed session tree source name with ⟨added, later⟩
  simp only [on_bind_eq_error_iff, on_outcome, on_pure, Prod.mk.injEq] at failed
  -- Only the last step writes, and when it does nothing can fail any more.
  rcases failed with ⟨-, rfl⟩ | ⟨⟨⟩, _, ⟨-, rfl⟩, ⟨-, rfl⟩ | ⟨text, _, ⟨-, rfl⟩, ⟨-, rfl⟩ |
    ⟨fileName, _, ⟨-, rfl⟩, failed | ⟨⟨⟩, _, -, ⟨⟩, -⟩⟩⟩⟩
  · rfl
  · rfl
  · rfl
  · exact eq_of_on_writeFile_error failed

end One

/-- A template by itself gives a file in a directory that exists, when it has a name with the suffix, can be
added and rendered, and its text can be written. -/
theorem generateFrom_eq_ok_iff {template directory output : Files.Path} {suffix : String} :
    on (engine.generateFrom moment catalog template directory suffix) tree = (.ok output, after) ↔
      tree.isDirectory directory = true ∧ ∃ file, outputFileName template suffix = .ok file ∧
        output = directory.join ⟨file⟩ ∧ ∃ session text,
          engine.addFile engine.empty tree template.text template = (.ok (), session) ∧
            engine.renderCatalog session moment template.text catalog = .ok text ∧
              tree.write (directory.join ⟨file⟩) (.text text) = .ok after := by
  rw [Engine.generateFrom, on_get_bind]
  cases exists_ : tree.isDirectory directory with
  | false => simp [on_throw]
  | true =>
    -- The name of the file is worked out before anything is loaded, and only the last step writes.
    simp only [Bool.not_true, Bool.false_eq_true, if_false, true_and]
    simp only [on_bind_eq_ok_iff, on_outcome, on_get, on_pure, Prod.mk.injEq, Except.ok.injEq]
    constructor
    · rintro ⟨file, _, ⟨named, rfl⟩, _, _, ⟨rfl, rfl⟩, ⟨⟩, _, ⟨added, rfl⟩, text, _, ⟨rendered, rfl⟩,
        ⟨⟩, _, written, rfl, rfl⟩
      exact ⟨file, named, rfl, _, text, Prod.ext added rfl, rendered,
        on_writeFile_eq_ok_iff.mp written⟩
    · rintro ⟨file, named, rfl, session, text, added, rendered, written⟩
      have first := congrArg Prod.fst added
      obtain rfl := congrArg Prod.snd added
      exact ⟨file, _, ⟨named, rfl⟩, _, _, ⟨rfl, rfl⟩, (), _, ⟨first, rfl⟩, text, _, ⟨rendered, rfl⟩,
        (), _, on_writeFile_eq_ok_iff.mpr written, rfl, rfl⟩

/-- A template by itself that fails leaves the tree as it is. -/
theorem eq_of_generateFrom_error {template directory : Files.Path} {suffix : String} {failure : Failure}
    (failed : on (engine.generateFrom moment catalog template directory suffix) tree =
      (.error failure, after)) : after = tree := by
  rw [Engine.generateFrom, on_get_bind] at failed
  cases exists_ : tree.isDirectory directory with
  | false =>
    simp only [exists_, Bool.not_false, if_true, on_bind_eq_error_iff, on_throw, Prod.mk.injEq] at failed
    rcases failed with ⟨-, rfl⟩ | ⟨_, _, ⟨⟨⟩, -⟩, -⟩
    rfl
  | true =>
    -- Only the last step writes, and when it does nothing can fail any more.
    simp only [exists_, Bool.not_true, Bool.false_eq_true, if_false] at failed
    simp only [on_bind_eq_error_iff, on_outcome, on_get, on_pure, Prod.mk.injEq] at failed
    rcases failed with ⟨-, rfl⟩ | ⟨file, _, ⟨-, rfl⟩, ⟨⟨⟩, -⟩ | ⟨_, _, ⟨-, rfl⟩, ⟨-, rfl⟩ |
      ⟨⟨⟩, _, ⟨-, rfl⟩, ⟨-, rfl⟩ | ⟨shown, _, ⟨-, rfl⟩, failed | ⟨⟨⟩, _, -, ⟨⟩, -⟩⟩⟩⟩⟩
    · rfl
    · rfl
    · rfl
    · exact eq_of_on_writeFile_error failed

/-- Either template by itself gives its file in a directory that exists, when it can be added and rendered
and its text written. -/
theorem GivesFile.generateFrom_eq_ok_iff {name last file : String} (gives : GivesFile name last file)
    {root directory output : Files.Path} :
    on (engine.generateFrom moment catalog (root.join ⟨name⟩) directory templateSuffix) tree =
        (.ok output, after) ↔
      tree.isDirectory directory = true ∧ output = directory.join ⟨file⟩ ∧ ∃ session text,
        engine.addFile engine.empty tree (root.join ⟨name⟩).text (root.join ⟨name⟩) = (.ok (), session) ∧
          engine.renderCatalog session moment (root.join ⟨name⟩).text catalog = .ok text ∧
            tree.write (directory.join ⟨file⟩) (.text text) = .ok after := by
  -- Its name has the suffix, so the name of the file is known.
  simp only [Generation.generateFrom_eq_ok_iff, gives.outputFileName_join, Except.ok.injEq,
    exists_eq_left']

/-- The pair of files is generated when the directory can be made and each of the two templates gives its
file. -/
theorem generatePair_eq_ok_iff {source : TemplateSource} {directory : Files.Path}
    {paths : List Files.Path} :
    on (engine.generatePair first second catalog source directory) tree = (.ok paths, after) ↔
      ∃ made header session between implementation last,
        tree.makeDirectories directory = (.ok (), made) ∧
          on (engine.generateOne first catalog source directory engine.empty headerName) made =
            (.ok (header, session), between) ∧
          on (engine.generateOne second catalog source directory session sourceName) between =
            (.ok (implementation, last), after) ∧
          paths = [header, implementation] := by
  -- The second template is added to the session and the tree that the first one leaves.
  simp only [Engine.generatePair, on_bind_eq_ok_iff, on_pure, Prod.mk.injEq, Except.ok.injEq]
  constructor
  · rintro ⟨⟨⟩, made, directories, ⟨header, session⟩, between, first, ⟨implementation, last⟩, _, second,
      rfl, rfl⟩
    exact ⟨made, header, session, between, implementation, last,
      on_makeDirectories_eq_ok_iff.mp directories, first, second, rfl⟩
  · rintro ⟨made, header, session, between, implementation, last, directories, first, second, rfl⟩
    exact ⟨(), made, on_makeDirectories_eq_ok_iff.mpr directories, (header, session), between, first,
      (implementation, last), _, second, rfl, rfl⟩

/-- The pair of files is not generated when the directory cannot be made or one of the templates fails,
the second one on the tree that the first one leaves. -/
theorem generatePair_eq_error_iff {source : TemplateSource} {directory : Files.Path}
    {failure : Failure} :
    on (engine.generatePair first second catalog source directory) tree = (.error failure, after) ↔
      on (makeDirectories directory) tree = (.error failure, after) ∨
        ∃ made, tree.makeDirectories directory = (.ok (), made) ∧
          (on (engine.generateOne first catalog source directory engine.empty headerName) made =
              (.error failure, after) ∨
            ∃ header session between,
              on (engine.generateOne first catalog source directory engine.empty headerName) made =
                (.ok (header, session), between) ∧
              on (engine.generateOne second catalog source directory session sourceName) between =
                (.error failure, after)) := by
  -- There are three places to fail, and none after the second template is done.
  simp only [Engine.generatePair, on_bind_eq_error_iff, on_pure, Prod.mk.injEq]
  constructor
  · rintro (failed | ⟨⟨⟩, made, directories, first | ⟨⟨header, session⟩, between, first, second |
      ⟨-, -, -, ⟨⟩, -⟩⟩⟩)
    · exact .inl failed
    · exact .inr ⟨made, on_makeDirectories_eq_ok_iff.mp directories, .inl first⟩
    · exact .inr ⟨made, on_makeDirectories_eq_ok_iff.mp directories,
        .inr ⟨header, session, between, first, second⟩⟩
  · rintro (failed | ⟨made, directories, first | ⟨header, session, between, first, second⟩⟩)
    · exact .inl failed
    · exact .inr ⟨(), made, on_makeDirectories_eq_ok_iff.mpr directories, .inl first⟩
    · exact .inr ⟨(), made, on_makeDirectories_eq_ok_iff.mpr directories,
        .inr ⟨(header, session), between, first, .inl second⟩⟩

end UdsCatalog.Generation
