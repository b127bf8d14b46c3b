import Mathlib
import UdsCatalog.Proofs.Generation.Independence

/-!
The two ways of generating agree. The pair of templates is added to one session under fixed names, and a
template by itself is added to a fresh session under its path. In a local engine this makes no difference for
templates that mention neither of the two and render alike whenever they are rendered.
-/

namespace UdsCatalog.Generation

open Work

variable {engine : Engine} {mentions : String → List String} {catalog : Catalog} {tree after : Files.Tree}
  {root directory : Files.Path} {source : TemplateSource}

/-! ### Files -/

section Files

variable {name last file : String} {moment other : engine.Moment} (gives : GivesFile name last file)
include gives

/-- One of the two templates in a session gives the file that it gives by itself. -/
theorem GivesFile.generateOne_iff_generateFrom
    (template : IsIndependent engine mentions catalog tree root name moment other)
    (isLocal : engine.IsLocal mentions) (named : name ∈ [headerName, sourceName])
    (same : ∀ text, source.text? tree name = some text ↔ tree.readText (root.join ⟨name⟩) = .ok text)
    {session : engine.Library} (holds : engine.Holds mentions (loadedNames root) session)
    (exists_ : tree.isDirectory directory = true) {output : Files.Path} :
    (∃ next, on (engine.generateOne moment catalog source directory session name) tree =
      (.ok (output, next), after)) ↔
      on (engine.generateFrom other catalog (root.join ⟨name⟩) directory templateSuffix) tree =
        (.ok output, after) := by
  -- Both write the text to the same file, so only adding and rendering are compared.
  rw [gives.generateFrom_eq_ok_iff]
  simp only [gives.generateOne_eq_ok_iff, exists_, true_and]
  constructor
  · rintro ⟨next, added, rfl, text, rendered, written⟩
    obtain ⟨own, ownAdded, ownRendered⟩ :=
      (template.addFixed_render_iff isLocal named same holds text).mp ⟨next, added, rendered⟩
    exact ⟨rfl, own, text, ownAdded, ownRendered, written⟩
  · rintro ⟨rfl, own, text, ownAdded, ownRendered, written⟩
    obtain ⟨next, added, rendered⟩ :=
      (template.addFixed_render_iff isLocal named same holds text).mpr ⟨own, ownAdded, ownRendered⟩
    exact ⟨next, added, rfl, text, rendered, written⟩

/-- A template by itself gives its file with the text that it renders to, and changes no other place. -/
theorem GivesFile.exists_of_generateFrom {output : Files.Path}
    (generated : on (engine.generateFrom moment catalog (root.join ⟨name⟩) directory templateSuffix) tree =
      (.ok output, after)) :
    output = directory.join ⟨file⟩ ∧ ∃ shown outer,
      RendersTo engine moment catalog tree (root.join ⟨name⟩) shown ∧
      tree.entry? (file :: outer) ≠ some .directory ∧
      after = tree.put (file :: outer) (.file (.text shown)) ∧
      after.readText (directory.join ⟨file⟩) = .ok shown := by
  obtain ⟨-, rfl, session, shown, added, rendered, written⟩ := gives.generateFrom_eq_ok_iff.mp generated
  obtain ⟨outer, free, own, found⟩ := Files.Tree.exists_of_write_join gives.filePlain written
  exact ⟨rfl, shown, outer, ⟨session, added, rendered⟩, free, own,
    Files.Tree.readText_eq_ok_iff.mpr ⟨_, found⟩⟩

/-- A template that renders gives its file where no directory stands in its place. -/
theorem GivesFile.generateFrom_of_rendersTo {shown : String}
    (renders : RendersTo engine moment catalog tree (root.join ⟨name⟩) shown)
    (exists_ : tree.isDirectory directory = true)
    (free : tree.isDirectory (directory.join ⟨file⟩) = false) :
    ∃ after, on (engine.generateFrom moment catalog (root.join ⟨name⟩) directory templateSuffix) tree =
        (.ok (directory.join ⟨file⟩), after) ∧
      after.readText (directory.join ⟨file⟩) = .ok shown := by
  -- Rendering does not touch the tree, so what can be written before can be written after it.
  obtain ⟨session, added, rendered⟩ := renders
  obtain ⟨after, written⟩ :=
    Files.Tree.exists_write_join gives.filePlain exists_ free (.text shown)
  obtain ⟨_, _, _, found⟩ := Files.Tree.exists_of_write_join gives.filePlain written
  exact ⟨after, gives.generateFrom_eq_ok_iff.mpr
    ⟨exists_, rfl, session, shown, added, rendered, written⟩,
    Files.Tree.readText_eq_ok_iff.mpr ⟨_, found⟩⟩

end Files

section Pair

/-- When a file of declarations has been put somewhere, the template for definitions is read as before. -/
theorem readText_source_put (root : Files.Path) {outer : Files.Place} (content : Files.Content)
    (free : tree.entry? ("uds_def.h" :: outer) ≠ some .directory) (text : String) :
    (tree.put ("uds_def.h" :: outer) (.file content)).readText (root.join ⟨sourceName⟩) = .ok text ↔
      tree.readText (root.join ⟨sourceName⟩) = .ok text :=
  Files.Tree.readText_put free content (givesFile_source.ends_join root) givesFile_source.lastPlain
    (by decide)

/-- A template of a directory has the text of its file. -/
theorem text?_directory_iff {root : Files.Path} {name text : String} :
    (TemplateSource.directory root).text? tree name = some text ↔
      tree.readText (root.join ⟨name⟩) = .ok text := by
  rw [TemplateSource.text?]
  cases tree.readText (root.join ⟨name⟩) <;> simp [Except.toOption]

/-- So it is wherever the template comes from. -/
theorem text?_source_put (source : TemplateSource) {outer : Files.Place} (content : Files.Content)
    (free : tree.entry? ("uds_def.h" :: outer) ≠ some .directory) (text : String) :
    source.text? (tree.put ("uds_def.h" :: outer) (.file content)) sourceName = some text ↔
      source.text? tree sourceName = some text := by
  cases source with
  | builtIn => exact Iff.rfl
  | directory root => rw [text?_directory_iff, text?_directory_iff, readText_source_put root content free]

/-- When the file of declarations has been generated, the same directories stand as before, and the template
for definitions is read as before. -/
theorem of_generateFrom_header {moment : engine.Moment} {output : Files.Path}
    (generated : on (engine.generateFrom moment catalog (root.join ⟨headerName⟩) directory templateSuffix)
      tree = (.ok output, after)) :
    (∀ path, after.isDirectory path = tree.isDirectory path) ∧
      ∀ text, after.readText (root.join ⟨sourceName⟩) = .ok text ↔
        tree.readText (root.join ⟨sourceName⟩) = .ok text := by
  -- The one entry that is put is a file, and it is not the template for definitions.
  obtain ⟨-, shown, outer, -, free, rfl, -⟩ := givesFile_header.exists_of_generateFrom generated
  exact ⟨Files.Tree.isDirectory_put free _, readText_source_put root _ free⟩

variable {first second third fourth : engine.Moment} (isLocal : engine.IsLocal mentions)
  (exists_ : tree.isDirectory directory = true)
  (header : IsIndependent engine mentions catalog tree root headerName first third)
  (implementation : IsIndependent engine mentions catalog tree root sourceName second fourth)
  (sameHeader : ∀ text, source.text? tree headerName = some text ↔
    tree.readText (root.join ⟨headerName⟩) = .ok text)
  (sameSource : ∀ text, source.text? tree sourceName = some text ↔
    tree.readText (root.join ⟨sourceName⟩) = .ok text)
include isLocal exists_ header sameHeader

/-- The template for declarations gives its file in a session without templates as it does by itself. -/
theorem generateOne_header_iff {output : Files.Path} :
    (∃ next, on (engine.generateOne first catalog source directory engine.empty headerName) tree =
      (.ok (output, next), after)) ↔
      on (engine.generateFrom third catalog (root.join ⟨headerName⟩) directory templateSuffix) tree =
        (.ok output, after) :=
  givesFile_header.generateOne_iff_generateFrom header isLocal (by simp) sameHeader .empty exists_

/-- A pair that fails leaves the tree that the template for declarations leaves by itself. -/
theorem tree_of_generatePair_error {failure : Failure}
    (failed : on (engine.generatePair first second catalog source directory) tree =
      (.error failure, after)) :
    after = (on (engine.generateFrom third catalog (root.join ⟨headerName⟩) directory templateSuffix)
      tree).2 := by
  rcases generatePair_eq_error_iff.mp failed with directories | ⟨made, directories, failed | second⟩
  · -- The directory is there, so it does not have to be made.
    rw [on_makeDirectories, Files.Tree.makeDirectories_of_isDirectory exists_] at directories
    cases directories
  · -- A template for declarations that fails in the session fails by itself, and both ways nothing is written.
    rw [Files.Tree.makeDirectories_of_isDirectory exists_] at directories
    obtain ⟨-, rfl⟩ := Prod.mk.inj directories
    obtain rfl := eq_of_generateOne_error failed
    rcases own : on (engine.generateFrom third catalog (root.join ⟨headerName⟩) directory templateSuffix)
        after with ⟨failure' | output, later⟩
    · exact (eq_of_generateFrom_error own).symm
    · obtain ⟨next, generated⟩ :=
        (generateOne_header_iff isLocal exists_ header sameHeader).mpr own
      rw [failed] at generated
      cases generated
  · -- The declarations were written, and the template for definitions writes nothing when it fails.
    obtain ⟨output, session, between, generated, failed⟩ := second
    obtain rfl := eq_of_generateOne_error failed
    rw [Files.Tree.makeDirectories_of_isDirectory exists_] at directories
    obtain ⟨-, rfl⟩ := Prod.mk.inj directories
    rw [(generateOne_header_iff isLocal exists_ header sameHeader).mp ⟨session, generated⟩]

include implementation sameSource

/-- The pair is generated when each template by itself gives its file, one after the other, and the files are
the same. -/
theorem generatePair_eq_ok_iff_generateFrom (paths : List Files.Path) (after : Files.Tree) :
    on (engine.generatePair first second catalog source directory) tree = (.ok paths, after) ↔
      ∃ declarations definitions between,
        on (engine.generateFrom third catalog (root.join ⟨headerName⟩) directory templateSuffix) tree =
          (.ok declarations, between) ∧
        on (engine.generateFrom fourth catalog (root.join ⟨sourceName⟩) directory templateSuffix) between =
          (.ok definitions, after) ∧
        paths = [declarations, definitions] := by
  -- In a session of the first template the second one gives what it gives by itself on the tree behind.
  have sourceIff : ∀ {output session between definitions},
      on (engine.generateOne first catalog source directory engine.empty headerName) tree =
        (.ok (output, session), between) →
      ((∃ last, on (engine.generateOne second catalog source directory session sourceName) between =
        (.ok (definitions, last), after)) ↔
        on (engine.generateFrom fourth catalog (root.join ⟨sourceName⟩) directory templateSuffix) between =
          (.ok definitions, after)) := by
    intro output session between definitions generated
    obtain ⟨added, -, text, -, written⟩ := givesFile_header.generateOne_eq_ok_iff.mp generated
    obtain ⟨outer, free, rfl, -⟩ := Files.Tree.exists_of_write_join givesFile_header.filePlain written
    -- What holds of the tree at the beginning holds between the two templates, too.
    have read := readText_source_put root (.text text) free
    exact givesFile_source.generateOne_iff_generateFrom (implementation.congr read) isLocal (by simp)
      (fun text => by rw [text?_source_put source _ free, sameSource, read])
      (header.holds_of_addFixed (by simp) sameHeader .empty added)
      (by rw [Files.Tree.isDirectory_put free, exists_])
  -- The directory is there, so the pair begins on the tree as it is, and goes template by template.
  rw [generatePair_eq_ok_iff, Files.Tree.makeDirectories_of_isDirectory exists_]
  constructor
  · rintro ⟨_, declarations, session, between, definitions, last, ⟨rfl, rfl⟩, generated, later, rfl⟩
    have first := (generateOne_header_iff isLocal exists_ header sameHeader).mp ⟨session, generated⟩
    exact ⟨declarations, definitions, between, first, (sourceIff generated).mp ⟨last, later⟩, rfl⟩
  -- The other way, both runs are put in one session, which the first template leaves to the second.
  · rintro ⟨declarations, definitions, between, generated, later, rfl⟩
    obtain ⟨session, generated⟩ := (generateOne_header_iff isLocal exists_ header sameHeader).mpr generated
    obtain ⟨last, later⟩ := (sourceIff generated).mpr later
    exact ⟨tree, declarations, session, between, definitions, last, rfl, generated, later, rfl⟩

end Pair

/-! ### The built-in templates in a directory -/

/-- A directory with the built-in texts gives what the built-in templates give: the same files when both
succeed, and the same tree when both fail. -/
theorem generatePair_builtIn {first second third fourth : engine.Moment} (isLocal : engine.IsLocal mentions)
    (exists_ : tree.isDirectory directory = true)
    (header : IsIndependent engine mentions catalog tree root headerName first third)
    (implementation : IsIndependent engine mentions catalog tree root sourceName second fourth)
    (headerText : tree.readText (root.join ⟨headerName⟩) = .ok headerTemplate)
    (sourceText : tree.readText (root.join ⟨sourceName⟩) = .ok sourceTemplate) :
    (∀ paths after, on (engine.generatePair first second catalog (.directory root) directory) tree =
        (.ok paths, after) ↔
      on (engine.generatePair third fourth catalog .builtIn directory) tree = (.ok paths, after)) ∧
      (on (engine.generatePair first second catalog (.directory root) directory) tree).2 =
        (on (engine.generatePair third fourth catalog .builtIn directory) tree).2 := by
  have headerBuiltIn : ∀ text, TemplateSource.builtIn.text? tree headerName = some text ↔
      tree.readText (root.join ⟨headerName⟩) = .ok text := by
    intro text
    rw [TemplateSource.text?, builtInTemplate?, if_pos (by decide), headerText]
    simp
  have sourceBuiltIn : ∀ text, TemplateSource.builtIn.text? tree sourceName = some text ↔
      tree.readText (root.join ⟨sourceName⟩) = .ok text := by
    intro text
    rw [TemplateSource.text?, builtInTemplate?, if_neg (by decide), if_pos (by decide), sourceText]
    simp
  -- Both pairs give what the two templates of the directory give by themselves.
  have same : ∀ paths after, on (engine.generatePair first second catalog (.directory root) directory) tree =
      (.ok paths, after) ↔
        on (engine.generatePair third fourth catalog .builtIn directory) tree = (.ok paths, after) := by
    intro paths after
    rw [generatePair_eq_ok_iff_generateFrom isLocal exists_ header implementation
        (fun _ => text?_directory_iff) (fun _ => text?_directory_iff),
      generatePair_eq_ok_iff_generateFrom isLocal exists_ header.later implementation.later headerBuiltIn
        sourceBuiltIn]
  refine ⟨same, ?_⟩
  rcases left : on (engine.generatePair first second catalog (.directory root) directory) tree with
    ⟨failure | paths, after⟩
  · rcases right : on (engine.generatePair third fourth catalog .builtIn directory) tree with
      ⟨failure' | paths, after'⟩
    · -- Both fail, and leave what the template for declarations leaves.
      exact (tree_of_generatePair_error isLocal exists_ header (fun _ => text?_directory_iff) left).trans
        (tree_of_generatePair_error isLocal exists_ header.later headerBuiltIn right).symm
    · rw [(same paths after').mpr right] at left
      cases left
  · rw [(same paths after).mp left]

/-- In a directory that exists, where no directory stands in place of a file, the built-in templates generate
the pair of files when every class has fields. -/
theorem exists_generatePair_builtIn (filled : ∀ layout ∈ catalog.classes, layout.items ≠ [])
    (exists_ : tree.isDirectory directory = true)
    (headerFree : tree.isDirectory (directory.join ⟨"uds_def.h"⟩) = false)
    (sourceFree : tree.isDirectory (directory.join ⟨"uds_def.cpp"⟩) = false) :
    ∃ paths after, on (generatePair catalog .builtIn directory) tree = (.ok paths, after) := by
  obtain ⟨between, written⟩ := Files.Tree.exists_write_join givesFile_header.filePlain exists_
    headerFree (.text (headerCode catalog).text)
  have first : on (generateOne catalog .builtIn directory .fresh headerName) tree =
      (.ok (directory.join ⟨"uds_def.h"⟩, headerSession), between) :=
    givesFile_header.generateOne_eq_ok_iff.mpr
      ⟨addFixed_header tree, rfl, _, render_header filled, written⟩
  -- Writing the declarations makes no directory and removes none.
  obtain ⟨outer, free, rfl, -⟩ := Files.Tree.exists_of_write_join givesFile_header.filePlain written
  rw [← Files.Tree.isDirectory_put free (.text (headerCode catalog).text)] at exists_ sourceFree
  obtain ⟨after, written⟩ := Files.Tree.exists_write_join givesFile_source.filePlain exists_
    sourceFree (.text (sourceCode catalog).text)
  have second := givesFile_source.generateOne_eq_ok_iff.mpr
    ⟨addFixed_source _, rfl, _, render_source filled, written⟩
  rw [Files.Tree.isDirectory_put free] at exists_
  exact ⟨_, after, generatePair_eq_ok_iff.mpr
    ⟨tree, _, headerSession, _, _, pairSession, Files.Tree.makeDirectories_of_isDirectory exists_,
      first, second, rfl⟩⟩

/-! ### Agreement -/

/-- In a local engine, and in a directory that exists, where no directory stands in place of the file of
definitions, independent templates are generated as a pair just when each of them is generated by itself, and
the files are the same; a directory with the built-in texts gives what the built-in templates give. A directory
in place of the file of declarations stops both ways alike. -/
theorem generatePair_agrees_with_generateFrom {first second third fourth : engine.Moment}
    (isLocal : engine.IsLocal mentions) (exists_ : tree.isDirectory directory = true)
    (sourceFree : tree.isDirectory (directory.join ⟨"uds_def.cpp"⟩) = false)
    (header : IsIndependent engine mentions catalog tree root headerName first third)
    (implementation : IsIndependent engine mentions catalog tree root sourceName second fourth) :
    ((∃ paths after, on (engine.generatePair first second catalog (.directory root) directory) tree =
          (.ok paths, after)) ↔
        (∃ path after, on (engine.generateFrom third catalog (root.join ⟨headerName⟩) directory
          templateSuffix) tree = (.ok path, after)) ∧
        ∃ path after, on (engine.generateFrom fourth catalog (root.join ⟨sourceName⟩) directory
          templateSuffix) tree = (.ok path, after)) ∧
      (∀ paths after, on (engine.generatePair first second catalog (.directory root) directory) tree =
          (.ok paths, after) →
        ∃ declarations definitions afterHeader afterSource,
          on (engine.generateFrom third catalog (root.join ⟨headerName⟩) directory templateSuffix) tree =
            (.ok (directory.join ⟨"uds_def.h"⟩), afterHeader) ∧
          on (engine.generateFrom fourth catalog (root.join ⟨sourceName⟩) directory templateSuffix) tree =
            (.ok (directory.join ⟨"uds_def.cpp"⟩), afterSource) ∧
          paths = [directory.join ⟨"uds_def.h"⟩, directory.join ⟨"uds_def.cpp"⟩] ∧
          afterHeader.readText (directory.join ⟨"uds_def.h"⟩) = .ok declarations ∧
          after.readText (directory.join ⟨"uds_def.h"⟩) = .ok declarations ∧
          afterSource.readText (directory.join ⟨"uds_def.cpp"⟩) = .ok definitions ∧
          after.readText (directory.join ⟨"uds_def.cpp"⟩) = .ok definitions ∧
          on (engine.generateFrom fourth catalog (root.join ⟨sourceName⟩) directory templateSuffix)
            afterHeader = (.ok (directory.join ⟨"uds_def.cpp"⟩), after)) ∧
      (tree.readText (root.join ⟨headerName⟩) = .ok headerTemplate →
        tree.readText (root.join ⟨sourceName⟩) = .ok sourceTemplate →
        (∀ paths after, on (engine.generatePair first second catalog (.directory root) directory) tree =
            (.ok paths, after) ↔
          on (engine.generatePair third fourth catalog .builtIn directory) tree = (.ok paths, after)) ∧
        (on (engine.generatePair first second catalog (.directory root) directory) tree).2 =
          (on (engine.generatePair third fourth catalog .builtIn directory) tree).2) := by
  have pair := generatePair_eq_ok_iff_generateFrom isLocal exists_ header implementation
    (fun _ => text?_directory_iff) (fun _ => text?_directory_iff)
  refine ⟨⟨?_, ?_⟩, ?_, generatePair_builtIn isLocal exists_ header implementation⟩
  · -- What the second template renders to is the same before and after the first one.
    rintro ⟨paths, after, generated⟩
    obtain ⟨declarations, definitions, between, first, second, -⟩ := (pair _ _).mp generated
    obtain ⟨-, texts⟩ := of_generateFrom_header first
    obtain ⟨-, shown, -, renders, -⟩ := givesFile_source.exists_of_generateFrom second
    obtain ⟨other, generated, -⟩ := givesFile_source.generateFrom_of_rendersTo
      ((rendersTo_congr texts shown).mp renders) exists_ sourceFree
    exact ⟨⟨declarations, between, first⟩, _, other, generated⟩
  · -- The file of declarations is no directory, so the definitions can still be written beside it.
    rintro ⟨⟨declarations, between, first⟩, definitions, other, second⟩
    obtain ⟨directories, texts⟩ := of_generateFrom_header first
    obtain ⟨-, shown, -, renders, -⟩ := givesFile_source.exists_of_generateFrom second
    obtain ⟨after, generated, -⟩ := givesFile_source.generateFrom_of_rendersTo
      ((rendersTo_congr texts shown).mpr renders) ((directories directory).trans exists_)
      ((directories _).trans sourceFree)
    exact ⟨_, after, (pair _ _).mpr ⟨declarations, _, between, first, generated, rfl⟩⟩
  · -- Each file is compared with what its template gives on the tree as it was at the beginning.
    intro paths after generated
    obtain ⟨header, source, between, first, second, rfl⟩ := (pair _ _).mp generated
    obtain ⟨-, texts⟩ := of_generateFrom_header first
    obtain ⟨rfl, declarations, -, -, -, -, readHeader⟩ := givesFile_header.exists_of_generateFrom first
    obtain ⟨rfl, definitions, outer, renders, free, own, readSource⟩ :=
      givesFile_source.exists_of_generateFrom second
    obtain ⟨other, alone, readAlone⟩ := givesFile_source.generateFrom_of_rendersTo
      ((rendersTo_congr texts definitions).mp renders) exists_ sourceFree
    -- The file of definitions does not touch that of declarations.
    have kept : after.readText (directory.join ⟨"uds_def.h"⟩) = .ok declarations := by
      rw [own]
      exact (Files.Tree.readText_put free _ (givesFile_header.filePlain.getLast?_join directory)
        givesFile_header.filePlain (by decide)).mpr readHeader
    exact ⟨declarations, definitions, between, other, first, alone, rfl, readHeader, kept, readAlone,
      readSource, second⟩

/-- A directory with the built-in texts, an empty directory, and a current directory beside them. -/
def builtInTree : Files.Tree :=
  ⟨[(["t"], .directory), (["cpp", "t"], .directory),
    (["uds_def.h.template", "cpp", "t"], .file (.text headerTemplate)),
    (["uds_def.cpp.template", "cpp", "t"], .file (.text sourceTemplate)), (["out"], .directory)], ["work"]⟩

/-- The built-in text for declarations is read from its directory. -/
theorem readText_builtInTree_header :
    builtInTree.readText ((⟨"/t"⟩ : Files.Path).join ⟨headerName⟩) = .ok headerTemplate := by
  refine Files.Tree.readText_eq_ok_iff.mpr ⟨["uds_def.h.template", "cpp", "t"],
    Files.Tree.find_eq_ok_iff.mpr ⟨by decide, by decide, ?_⟩⟩
  unfold Files.Tree.entry?
  rw [if_neg (by decide)]
  simp [builtInTree, List.lookup_cons]

/-- The built-in text for definitions is read from its directory. -/
theorem readText_builtInTree_source :
    builtInTree.readText ((⟨"/t"⟩ : Files.Path).join ⟨sourceName⟩) = .ok sourceTemplate := by
  refine Files.Tree.readText_eq_ok_iff.mpr ⟨["uds_def.cpp.template", "cpp", "t"],
    Files.Tree.find_eq_ok_iff.mpr ⟨by decide, by decide, ?_⟩⟩
  unfold Files.Tree.entry?
  rw [if_neg (by decide)]
  simp [builtInTree, List.lookup_cons]

/-- The built-in texts in a directory are generated as a pair, and each by itself at another moment. -/
theorem generatePair_agrees_with_generateFrom_builtIn :
    (∃ paths after,
      on (Engine.standard.generatePair (clockAt 1) (clockAt 2) .empty (.directory ⟨"/t"⟩) ⟨"/out"⟩)
        builtInTree = (.ok paths, after) ∧
      on (generatePair .empty .builtIn ⟨"/out"⟩) builtInTree = (.ok paths, after)) ∧
    (∃ path after, on (generateFrom .empty ((⟨"/t"⟩ : Files.Path).join ⟨headerName⟩) ⟨"/out"⟩
      templateSuffix) builtInTree = (.ok path, after)) ∧
    ∃ path after, on (generateFrom .empty ((⟨"/t"⟩ : Files.Path).join ⟨sourceName⟩) ⟨"/out"⟩
      templateSuffix) builtInTree = (.ok path, after) := by
  have exists_ : builtInTree.isDirectory ⟨"/out"⟩ = true := by decide
  have headerFree : builtInTree.isDirectory ((⟨"/out"⟩ : Files.Path).join ⟨"uds_def.h"⟩) = false := by
    decide
  have sourceFree : builtInTree.isDirectory ((⟨"/out"⟩ : Files.Path).join ⟨"uds_def.cpp"⟩) = false := by
    decide
  have filled : ∀ layout ∈ Catalog.empty.classes, layout.items ≠ [] := fun _ member => nomatch member
  -- The built-in templates are plain.
  have header := isIndependent_of_isPlain isPlain_headerTemplate readText_builtInTree_header filled
    (prints_header .empty) (clockAt 1) .none
  have source := isIndependent_of_isPlain isPlain_sourceTemplate readText_builtInTree_source filled
    (prints_source .empty) (clockAt 2) .none
  obtain ⟨paths, after, generated⟩ := exists_generatePair_builtIn filled exists_ headerFree sourceFree
  -- The files in the directory are copies of the built-in templates.
  obtain ⟨both, -, same⟩ := generatePair_agrees_with_generateFrom Engine.isLocal_standard exists_ sourceFree
    header source
  obtain ⟨same, -⟩ := same readText_builtInTree_header readText_builtInTree_source
  have pair := (same paths after).mpr generated
  exact ⟨⟨paths, after, pair, generated⟩, both.mp ⟨paths, after, pair⟩⟩

/-- A template for declarations that includes itself under its short name. -/
def selfText : String :=
  "\x7b% if a %\x7dx\x7b% else %\x7d\x7b% set a = 1 %\x7d" ++
    "\x7b% include \"cpp/uds_def.h.template\" %\x7d\x7b% endif %\x7d"

/-- A directory with two templates, and an empty directory. -/
def treeOfTemplates (header source : String) : Files.Tree :=
  ⟨[(["t"], .directory), (["cpp", "t"], .directory),
    (["uds_def.h.template", "cpp", "t"], .file (.text header)),
    (["uds_def.cpp.template", "cpp", "t"], .file (.text source)), (["out"], .directory)], []⟩

/-- Mentioning no other template is not enough. A template that includes itself does not know its own name when
it is generated by itself, and one that asks for the time gives another text a second later. -/
theorem generatePair_differs_from_generateFrom :
    (Template.mentionsOfText selfText = [headerName] ∧
      (∃ paths after, on (generatePair .empty (.directory ⟨"t"⟩) ⟨"out"⟩) (treeOfTemplates selfText "") =
        (.ok paths, after) ∧ after.readText ⟨"out/uds_def.h"⟩ = .ok "x") ∧
      ∃ failure after, on (generateFrom .empty ⟨"t/cpp/uds_def.h.template"⟩ ⟨"out"⟩ templateSuffix)
        (treeOfTemplates selfText "") = (.error failure, after)) ∧
    Template.mentionsOfText clockText = [] ∧
      (∃ paths after, on (Engine.standard.generatePair (clockAt 1) (clockAt 1) .empty (.directory ⟨"t"⟩)
        ⟨"out"⟩) (treeOfTemplates clockText clockText) = (.ok paths, after) ∧
        after.readText ⟨"out/uds_def.h"⟩ = .ok "1") ∧
      ∃ path after, on (Engine.standard.generateFrom (clockAt 2) .empty ⟨"t/cpp/uds_def.h.template"⟩ ⟨"out"⟩
        templateSuffix) (treeOfTemplates clockText clockText) = (.ok path, after) ∧
        after.readText ⟨"out/uds_def.h"⟩ = .ok "2" := by
  refine ⟨⟨by decide +kernel, ?_, ?_⟩, by decide +kernel, ?_, ?_⟩
  · exact ⟨[⟨"out/uds_def.h"⟩, ⟨"out/uds_def.cpp"⟩],
      ((treeOfTemplates selfText "").put ["uds_def.h", "out"] (.file (.text "x"))).put
        ["uds_def.cpp", "out"] (.file (.text "")),
      on_eq_ok_iff_toOption.mpr (by decide +kernel), by decide⟩
  · obtain ⟨failure, failed⟩ : ∃ failure, on (generateFrom .empty ⟨"t/cpp/uds_def.h.template"⟩ ⟨"out"⟩
        templateSuffix) (treeOfTemplates selfText "") = (.error failure, treeOfTemplates selfText "") :=
      exists_on_eq_error_iff_toOption.mpr (by decide +kernel)
    exact ⟨failure, _, failed⟩
  · exact ⟨[⟨"out/uds_def.h"⟩, ⟨"out/uds_def.cpp"⟩],
      ((treeOfTemplates clockText clockText).put ["uds_def.h", "out"] (.file (.text "1"))).put
        ["uds_def.cpp", "out"] (.file (.text "1")),
      on_eq_ok_iff_toOption.mpr (by decide +kernel), by decide⟩
  · exact ⟨⟨"out/uds_def.h"⟩,
      (treeOfTemplates clockText clockText).put ["uds_def.h", "out"] (.file (.text "2")),
      on_eq_ok_iff_toOption.mpr (by decide +kernel), by decide⟩

end UdsCatalog.Generation
