import Mathlib
import UdsCatalog.Proofs.Generation.Output

/-!
What is left of a generation that fails. The file of declarations is written before the template for
definitions is looked at, so it may be new beside an old file of definitions; nothing else changes, whichever
engine renders the templates.
-/

namespace UdsCatalog.Generation

open Work

variable {engine : Engine} {first second : engine.Moment} {catalog : Catalog} {source : TemplateSource}
  {directory : Files.Path} {tree after : Files.Tree}

/-- A template that gives its file changes no other file. -/
theorem GivesFile.fileAt?_of_generateOne {name last file : String} (gives : GivesFile name last file)
    {moment : engine.Moment} {session next : engine.Library} {output : Files.Path}
    (generated : on (engine.generateOne moment catalog source directory session name) tree =
      (.ok (output, next), after)) :
    ∃ text outer, engine.renderCatalog next moment name catalog = .ok text ∧
      after.find (directory.join ⟨file⟩) = .ok (file :: outer, .file (.text text)) ∧
        ∀ place, after.fileAt? place =
          if place = file :: outer then some (.text text) else tree.fileAt? place := by
  -- Its whole effect is one write, and a write puts one entry where no directory stands.
  obtain ⟨-, -, text, rendered, written⟩ := gives.generateOne_eq_ok_iff.mp generated
  obtain ⟨outer, free, rfl, found⟩ := Files.Tree.exists_of_write_join gives.filePlain written
  exact ⟨text, outer, rendered, found,
    Files.Tree.fileAt?_put free _⟩

/-- Directories that are made, or not, leave all files as they are. -/
theorem fileAt?_of_makeDirectories {result : Except Failure Unit}
    (made : on (makeDirectories directory) tree = (result, after)) (place : Files.Place) :
    after.fileAt? place = tree.fileAt? place := by
  -- Even those made before one that cannot be made stand where nothing stood.
  rw [on_makeDirectories] at made
  obtain ⟨-, rfl⟩ := Prod.mk.inj made
  exact Files.Tree.fileAt?_makeDirectories tree directory place

/-- A generation that fails leaves all files as they were, or it has written the file of declarations in
full and fails at the template for definitions. So no file but that of declarations is ever changed. -/
theorem generatePair_error_files {failure : Failure}
    (failed : on (engine.generatePair first second catalog source directory) tree = (.error failure, after)) :
    (∀ place, place.head? ≠ some "uds_def.h" → after.fileAt? place = tree.fileAt? place) ∧
      ((∀ place, after.fileAt? place = tree.fileAt? place) ∨
        ∃ made session text outer,
          tree.makeDirectories directory = (.ok (), made) ∧
          engine.addFixed engine.empty made source headerName = (.ok (), session) ∧
          engine.renderCatalog session first headerName catalog = .ok text ∧
          after.find (directory.join ⟨"uds_def.h"⟩) =
            .ok ("uds_def.h" :: outer, .file (.text text)) ∧
          (∀ place, after.fileAt? place =
            if place = "uds_def.h" :: outer then some (.text text) else tree.fileAt? place) ∧
          on (engine.generateOne second catalog source directory session sourceName) after =
            (.error failure, after)) := by
  -- One case for each place where a generation can fail.
  rcases generatePair_eq_error_iff.mp failed with directories | ⟨made, directories, first | second⟩
  · -- The directory could not be made.
    have same := fileAt?_of_makeDirectories directories
    exact ⟨fun place _ => same place, .inl same⟩
  · -- The template for declarations has failed, and nothing was written.
    obtain rfl := eq_of_generateOne_error first
    have same := fileAt?_of_makeDirectories (on_makeDirectories_eq_ok_iff.mpr directories)
    exact ⟨fun place _ => same place, .inl same⟩
  · -- The template for definitions has failed, and nothing was written after the declarations.
    obtain ⟨header, session, between, generated, second⟩ := second
    obtain rfl := eq_of_generateOne_error second
    have same := fileAt?_of_makeDirectories (on_makeDirectories_eq_ok_iff.mpr directories)
    obtain ⟨added, -, -⟩ := givesFile_header.generateOne_eq_ok_iff.mp generated
    obtain ⟨text, outer, rendered, found, files⟩ := givesFile_header.fileAt?_of_generateOne generated
    simp only [same] at files
    -- The one place that has changed is named after the declarations.
    refine ⟨fun place apart => ?_, .inr
      ⟨made, session, text, outer, directories, added, rendered, found, files, second⟩⟩
    rw [files place, if_neg]
    rintro rfl
    exact apart rfl

/-- A directory of templates without the one for definitions, and a directory with old files. -/
def staleTree : Files.Tree :=
  ⟨[(["t"], .directory), (["cpp", "t"], .directory),
    (["uds_def.h.template", "cpp", "t"], .file (.text "new")), (["out"], .directory),
    (["uds_def.h", "out"], .file (.text "old")), (["uds_def.cpp", "out"], .file (.text "old"))], []⟩

/-- Only the declarations are new when the template for definitions is missing. -/
theorem on_generatePair_stale :
    ∃ failure after, on (generatePair .empty (.directory ⟨"t"⟩) ⟨"out"⟩) staleTree =
        (.error failure, after) ∧
      after = staleTree.put ["uds_def.h", "out"] (.file (.text "new")) := by
  obtain ⟨failure, failed⟩ : ∃ failure,
      on (generatePair .empty (.directory ⟨"t"⟩) ⟨"out"⟩) staleTree =
        (.error failure, staleTree.put ["uds_def.h", "out"] (.file (.text "new"))) :=
    exists_on_eq_error_iff_toOption.mpr (by decide)
  exact ⟨failure, _, failed, rfl⟩

/-- The declarations can be new beside definitions that are old, although the generation has failed. -/
theorem generatePair_leaves_new_header :
    ∃ failure after, on (generatePair .empty (.directory ⟨"t"⟩) ⟨"out"⟩) staleTree =
        (.error failure, after) ∧
      staleTree.readText ⟨"out/uds_def.h"⟩ = .ok "old" ∧
      after.readText ⟨"out/uds_def.h"⟩ = .ok "new" ∧
      after.readText ⟨"out/uds_def.cpp"⟩ = .ok "old" := by
  obtain ⟨failure, after, failed, rfl⟩ := on_generatePair_stale
  exact ⟨failure, _, failed, by decide, by decide, by decide⟩

/-- Where the template for definitions is missing, that is where the generation fails, and only the file of
declarations changes. -/
theorem generatePair_error_files_stale :
    ∃ failure after session, on (generatePair .empty (.directory ⟨"t"⟩) ⟨"out"⟩) staleTree =
        (.error failure, after) ∧
      (∀ place, place.head? ≠ some "uds_def.h" → after.fileAt? place = staleTree.fileAt? place) ∧
      on (generateOne .empty (.directory ⟨"t"⟩) ⟨"out"⟩ session sourceName) after =
        (.error failure, after) := by
  obtain ⟨failure, after, failed, left⟩ := on_generatePair_stale
  obtain ⟨others, same | ⟨_, session, _, _, -, -, -, -, -, second⟩⟩ := generatePair_error_files failed
  · -- The file of declarations has changed.
    have old := same ["uds_def.h", "out"]
    rw [left] at old
    exact absurd old (by decide)
  · exact ⟨failure, after, session, failed, others, second⟩

end UdsCatalog.Generation
