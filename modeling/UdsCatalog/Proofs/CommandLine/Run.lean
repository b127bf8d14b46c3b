import Mathlib
import UdsCatalog.CommandLine.Run
import UdsCatalog.Proofs.Generation.Effect
import UdsCatalog.Proofs.Generation.Interrupted

/-!
Whole runs of the two programs. The code of a run tells how far it has come, and apart from a file of
declarations that a failure may leave behind, no file changes that the run does not tell.
-/

namespace UdsCatalog.CommandLine

open Generation Generation.Work

variable {program : Program} {tools : Tools} {given : Given} {settings : Settings} {catalog : Catalog}
  {tree after : Files.Tree} {paths : List Files.Path} {failure : Failure}

/-! ### Generating -/

/-- Some paths tell what has changed in a tree: each of them leads to a text, and a file that is not as it was
stands at the end of one of them. -/
structure Tells (tree after : Files.Tree) (paths : List Files.Path) : Prop where
  written : ∀ path ∈ paths, ∃ text, after.readText path = .ok text
  changed : ∀ place, after.fileAt? place ≠ tree.fileAt? place →
    ∃ path ∈ paths, ∃ entry, after.find path = .ok (place, entry)

/-- A pair that is generated is told. -/
theorem tells_of_generatePair {engine : Engine} {first second : engine.Moment} {source : TemplateSource}
    {directory : Files.Path}
    (generated : on (engine.generatePair first second catalog source directory) tree = (.ok paths, after)) :
    Tells tree after paths := by
  obtain ⟨made, _, session, between, _, last, directories, one, two, rfl⟩ :=
    generatePair_eq_ok_iff.mp generated
  obtain ⟨-, rfl, -⟩ := givesFile_header.generateOne_eq_ok_iff.mp one
  obtain ⟨-, rfl, shown, -, written⟩ := givesFile_source.generateOne_eq_ok_iff.mp two
  obtain ⟨header, outer, -, found, headerFiles⟩ := givesFile_header.fileAt?_of_generateOne one
  obtain ⟨around, free, rfl, foundSource⟩ :=
    Files.Tree.exists_of_write_join givesFile_source.filePlain written
  -- The second file has another name, so the first one is still found behind it.
  have apart : "uds_def.h" :: outer ≠ "uds_def.cpp" :: around := by simp
  have foundHeader := (Files.Tree.find_put free (.text shown) apart).mpr found
  constructor
  · intro path member
    simp only [List.mem_cons, List.not_mem_nil, or_false] at member
    rcases member with rfl | rfl
    · exact ⟨header, Files.Tree.readText_eq_ok_iff.mpr ⟨_, foundHeader⟩⟩
    · exact ⟨shown, Files.Tree.readText_eq_ok_iff.mpr ⟨_, foundSource⟩⟩
  · intro place changed
    rw [Files.Tree.fileAt?_put free, headerFiles,
      fileAt?_of_makeDirectories (on_makeDirectories_eq_ok_iff.mpr directories)] at changed
    by_cases source : place = "uds_def.cpp" :: around
    · subst source
      exact ⟨directory.join ⟨"uds_def.cpp"⟩, by simp, _, foundSource⟩
    · by_cases header : place = "uds_def.h" :: outer
      · subst header
        exact ⟨directory.join ⟨"uds_def.h"⟩, by simp, _, foundHeader⟩
      · rw [if_neg source, if_neg header] at changed
        exact absurd rfl changed

/-- A single template that is generated is told. -/
theorem tells_of_generateFrom {engine : Engine} {moment : engine.Moment}
    {template directory output : Files.Path} {suffix : String}
    (generated : on (engine.generateFrom moment catalog template directory suffix) tree =
      (.ok output, after)) : Tells tree after [output] := by
  obtain ⟨file, outer, shown, gives, rfl, rfl⟩ := generateFrom_eq_ok_iff_givesText.mp generated
  constructor
  · intro path member
    obtain rfl := List.mem_singleton.mp member
    exact ⟨shown, Files.Tree.readText_eq_ok_iff.mpr ⟨_, gives.find_eq⟩⟩
  · intro place changed
    rw [Files.Tree.fileAt?_put gives.free] at changed
    by_cases same : place = file :: outer
    · subst same
      exact ⟨_, List.mem_singleton_self _, _, gives.find_eq⟩
    · rw [if_neg same] at changed
      exact absurd rfl changed

/-- What a program generates is told. -/
theorem tells_of_generation
    (generated : on (program.generation tools given settings catalog) tree = (.ok paths, after)) :
    Tells tree after paths := by
  cases program with
  | generate => exact tells_of_generatePair generated
  | render =>
    simp only [Program.generation, on_bind_eq_ok_iff, on_pure, Prod.mk.injEq, Except.ok.injEq] at generated
    obtain ⟨output, _, generated, rfl, rfl⟩ := generated
    exact tells_of_generateFrom generated

/-- A generation that fails changes no file but that of declarations. -/
theorem changed_of_generation_error
    (failed : on (program.generation tools given settings catalog) tree = (.error failure, after))
    {place : Files.Place} (changed : after.fileAt? place ≠ tree.fileAt? place) :
    program = .generate ∧ place.head? = some "uds_def.h" := by
  cases program with
  | generate =>
    refine ⟨rfl, ?_⟩
    by_contra apart
    exact changed ((generatePair_error_files failed).1 place apart)
  | render =>
    simp only [Program.generation, on_bind_eq_error_iff, on_pure, Prod.mk.injEq] at failed
    rcases failed with failed | ⟨_, _, -, ⟨⟩, -⟩
    rw [eq_of_generateFrom_error failed] at changed
    exact absurd rfl changed

/-! ### Work -/

/-- The work of a program is done when the catalog can be loaded and the program generates from it. -/
theorem work_eq_ok_iff :
    on (program.work tools given settings) tree = (.ok paths, after) ↔
      ∃ catalog, settings.paths.loadCatalogWith tools.validator tree = .ok catalog ∧
        on (program.generation tools given settings catalog) tree = (.ok paths, after) := by
  rw [Program.work, on_get_bind, on_bind_eq_ok_iff]
  simp only [on_outcome, Prod.mk.injEq]
  constructor
  · rintro ⟨catalog, _, ⟨loaded, rfl⟩, generated⟩
    exact ⟨catalog, loaded, generated⟩
  · rintro ⟨catalog, loaded, generated⟩
    exact ⟨catalog, _, ⟨loaded, rfl⟩, generated⟩

/-- The work of a program fails when the catalog cannot be loaded, which changes nothing, or when generating
from it fails. -/
theorem work_eq_error_iff :
    on (program.work tools given settings) tree = (.error failure, after) ↔
      settings.paths.loadCatalogWith tools.validator tree = .error failure ∧ after = tree ∨
        ∃ catalog, settings.paths.loadCatalogWith tools.validator tree = .ok catalog ∧
          on (program.generation tools given settings catalog) tree = (.error failure, after) := by
  rw [Program.work, on_get_bind, on_bind_eq_error_iff]
  simp only [on_outcome, Prod.mk.injEq]
  constructor
  · rintro (⟨loaded, rfl⟩ | ⟨catalog, _, ⟨loaded, rfl⟩, failed⟩)
    · exact .inl ⟨loaded, rfl⟩
    · exact .inr ⟨catalog, loaded, failed⟩
  · rintro (⟨loaded, rfl⟩ | ⟨catalog, loaded, failed⟩)
    · exact .inl ⟨loaded, rfl⟩
    · exact .inr ⟨catalog, _, ⟨loaded, rfl⟩, failed⟩

/-! ### Runs -/

/-- All that a run is for is done: the settings are read, the catalog is loaded, and the files are generated
from it. -/
def Completes (program : Program) (tools : Tools) (given : Given) (environment : Settings.Environment)
    (tree after : Files.Tree) (paths : List Files.Path) : Prop :=
  ∃ settings catalog,
    Settings.loadWith tools.formats tree environment ((given.lookup .config).map Files.Path.mk) =
      .ok settings ∧
    (program.settings given settings).paths.loadCatalogWith tools.validator tree = .ok catalog ∧
    on (program.generation tools given (program.settings given settings) catalog) tree = (.ok paths, after)

section Runs

variable {environment : Settings.Environment}

/-- Once the settings are read, a run completes when its work is done. -/
theorem completes_iff
    (loaded : Settings.loadWith tools.formats tree environment ((given.lookup .config).map Files.Path.mk) =
      .ok settings) :
    Completes program tools given environment tree after paths ↔
      on (program.work tools given (program.settings given settings)) tree = (.ok paths, after) := by
  rw [work_eq_ok_iff, Completes, loaded]
  constructor
  · rintro ⟨_, catalog, ⟨⟩, loadedCatalog, generated⟩
    exact ⟨catalog, loadedCatalog, generated⟩
  · rintro ⟨catalog, loadedCatalog, generated⟩
    exact ⟨settings, catalog, rfl, loadedCatalog, generated⟩

/-- A run that completes tells that it is a success, and what it has written. -/
theorem Completes.runWith_eq (completes : Completes program tools given environment tree after paths) :
    program.runWith tools given environment tree = (program.success paths, after) := by
  have ⟨settings, _, loaded, _⟩ := completes
  have worked := (completes_iff loaded).mp completes
  rw [on] at worked
  simp only [Program.runWith, loaded, worked]

/-- A run that completes has changed no file but those that it tells. -/
theorem Completes.tells (completes : Completes program tools given environment tree after paths) :
    Tells tree after paths := by
  obtain ⟨_, _, -, -, generated⟩ := completes
  exact tells_of_generation generated

/-- A run that does not complete has some trouble, and changes no file but that of declarations. -/
theorem exists_runWith_eq_of_not_completes
    (incomplete : ∀ paths after, ¬ Completes program tools given environment tree after paths) :
    ∃ (trouble : Trouble) (after : Files.Tree),
      program.runWith tools given environment tree = (trouble.report, after) ∧
        ∀ place, after.fileAt? place ≠ tree.fileAt? place →
          program = .generate ∧ place.head? = some "uds_def.h" := by
  cases loaded : Settings.loadWith tools.formats tree environment
      ((given.lookup .config).map Files.Path.mk) with
  | error refusal =>
    -- Without settings nothing is done.
    refine ⟨.settings refusal, tree, ?_, fun place changed => absurd rfl changed⟩
    simp only [Program.runWith, loaded]
  | ok settings =>
    rcases worked : on (program.work tools given (program.settings given settings)) tree with
      ⟨failure | paths, after⟩
    · refine ⟨.work failure, after, ?_, fun place changed => ?_⟩
      · rw [on] at worked
        simp only [Program.runWith, loaded, worked]
      · -- Loading changes nothing, so what has changed was changed by generating.
        rcases work_eq_error_iff.mp worked with ⟨-, rfl⟩ | ⟨catalog, -, failed⟩
        · exact absurd rfl changed
        · exact changed_of_generation_error failed changed
    · exact absurd ((completes_iff loaded).mpr worked) (incomplete paths after)

/-- Where the tables are does not depend on the program. -/
theorem settings_paths (program other : Program) (given : Given) (settings : Settings) :
    (program.settings given settings).paths = (other.settings given settings).paths := by
  -- The programs differ in the directory of output only, where no table is looked for.
  unfold Program.settings
  cases given.lookup Flag.output <;> cases program <;> cases other <;> rfl

/-- Settings that cannot be read, and a catalog that cannot be loaded, stop both programs alike, and nothing is
changed. -/
theorem runWith_eq_of_stopped {refusal : Settings.Refusal}
    (stopped : Settings.loadWith tools.formats tree environment ((given.lookup .config).map Files.Path.mk) =
        .error refusal ∨
      ∃ settings, Settings.loadWith tools.formats tree environment
          ((given.lookup .config).map Files.Path.mk) = .ok settings ∧
        (program.settings given settings).paths.loadCatalogWith tools.validator tree = .error failure)
    (other : Program) :
    other.runWith tools given environment tree = program.runWith tools given environment tree ∧
      (program.runWith tools given environment tree).2 = tree := by
  rcases stopped with refused | ⟨settings, loaded, unloaded⟩
  · simp only [Program.runWith, refused, and_self]
  · -- The failure is that of loading, whichever program asks for the catalog.
    have fails : ∀ each : Program, each.runWith tools given environment tree =
        ((Trouble.work failure).report, tree) := by
      intro each
      rw [settings_paths program each] at unloaded
      have worked : on (each.work tools given (each.settings given settings)) tree =
          (.error failure, tree) := work_eq_error_iff.mpr (.inl ⟨unloaded, rfl⟩)
      rw [on] at worked
      simp only [Program.runWith, loaded, worked]
    rw [fails other, fails program]
    exact ⟨rfl, rfl⟩

end Runs

/-- The usage of a program says something. -/
theorem usage_ne_empty (program : Program) : program.usage ≠ "" := by
  intro empty
  have chars := congrArg String.toList empty
  simp [Program.usage] at chars

/-- What a run tells about trouble says something. -/
theorem report_errors_ne_empty (trouble : Trouble) : trouble.report.errors ≠ "" := by
  intro empty
  have chars := congrArg String.toList empty
  simp [Trouble.report] at chars

/-- What a run tells fits what it leaves. The code is 0 when help is asked for or the run completes, 2 when the
arguments are misused, and 1 when it does not complete; errors are told unless it is 0. A run that completes
tells what it has changed. Any other run changes no file, apart from a pair whose second file fails: then the
file of declarations may be new. -/
structure Fits (program : Program) (tools : Tools) (arguments : List String)
    (environment : Settings.Environment) (tree : Files.Tree) (report : Report) (after : Files.Tree) :
    Prop where
  success : report.code = 0 ↔ program.request arguments = .help ∨ ∃ given paths left,
    program.request arguments = .run given ∧ Completes program tools given environment tree left paths
  trouble : report.code = 1 ↔ ∃ given, program.request arguments = .run given ∧
    ∀ paths left, ¬ Completes program tools given environment tree left paths
  misuse : report.code = 2 ↔ program.request arguments = .misuse
  errors : report.errors = "" ↔ report.code = 0
  tells : ∀ given paths left, program.request arguments = .run given →
    Completes program tools given environment tree left paths →
    report = program.success paths ∧ after = left ∧ Tells tree after paths
  kept : ∀ place, after.fileAt? place ≠ tree.fileAt? place →
    (∃ given paths, program.request arguments = .run given ∧
      Completes program tools given environment tree after paths) ∨
    report.code = 1 ∧ program = .generate ∧ place.head? = some "uds_def.h"

/-- Whatever its arguments, the environment and the files are, what a run tells fits what it leaves. -/
theorem fits_runBy (program : Program) (tools : Tools) (arguments : List String)
    (environment : Settings.Environment) (tree : Files.Tree) :
    Fits program tools arguments environment tree (program.runBy tools arguments environment tree).1
      (program.runBy tools arguments environment tree).2 := by
  cases requested : program.request arguments with
  | help =>
    have same : program.runBy tools arguments environment tree = (⟨0, program.usage, ""⟩, tree) := by
      rw [Program.runBy, requested]
    rw [same]
    constructor <;> simp [requested]
  | misuse =>
    have same : program.runBy tools arguments environment tree = (⟨2, "", program.usage⟩, tree) := by
      rw [Program.runBy, requested]
    rw [same]
    constructor <;> simp [requested, usage_ne_empty]
  | run given =>
    have same : program.runBy tools arguments environment tree =
        program.runWith tools given environment tree := by
      rw [Program.runBy, requested]
    rw [same]
    by_cases completes : ∃ paths left, Completes program tools given environment tree left paths
    · obtain ⟨paths, left, completes⟩ := completes
      rw [completes.runWith_eq]
      -- A run gives one result, so it completes in one way only.
      have only : ∀ others tree', Completes program tools given environment tree tree' others →
          program.success paths = program.success others ∧ left = tree' := fun others tree' other =>
        Prod.mk.inj (completes.runWith_eq.symm.trans other.runWith_eq)
      exact {
        success := by simpa [requested, Program.success] using ⟨paths, left, completes⟩
        trouble := by simpa [requested, Program.success] using ⟨paths, left, completes⟩
        misuse := by simp [requested, Program.success]
        errors := by simp [Program.success]
        tells := fun other others tree' asked done => by
          obtain rfl := CommandLine.Request.run.inj (requested.symm.trans asked)
          obtain ⟨report, rfl⟩ := only others tree' done
          exact ⟨report, rfl, done.tells⟩
        kept := fun place changed => .inl ⟨given, paths, requested, completes⟩ }
    · simp only [not_exists] at completes
      obtain ⟨trouble, after, same, changed⟩ := exists_runWith_eq_of_not_completes completes
      rw [same]
      exact {
        success := by simpa [requested, Trouble.report] using completes
        trouble := by simpa [requested, Trouble.report] using completes
        misuse := by simp [requested, Trouble.report]
        errors := iff_of_false (report_errors_ne_empty trouble) (by simp [Trouble.report])
        tells := fun other paths left asked done => by
          obtain rfl := CommandLine.Request.run.inj (requested.symm.trans asked)
          exact absurd done (completes paths left)
        kept := fun place differs => .inr ⟨rfl, changed place differs⟩ }

/-- Help is a success for both programs, and a single template must be named. -/
example : (Program.generate.run ["-h"] [] .empty).1.code = 0 ∧
    (Program.render.run ["--help"] [] .empty).1.code = 0 ∧ (Program.render.run [] [] .empty).1.code = 2 := by
  decide

end UdsCatalog.CommandLine
