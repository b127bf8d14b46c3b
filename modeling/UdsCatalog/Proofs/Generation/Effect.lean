import Mathlib
import UdsCatalog.Proofs.Files.Named
import UdsCatalog.Proofs.Generation.Independence

/-!
What a template by itself does to a tree of files: it fails and changes nothing, or it puts one file under its
own name without the suffix into the directory, and nothing else changes. Which engine renders the template,
and at which moment, makes no difference.
-/

namespace UdsCatalog.Generation

open Work

variable {engine : Engine} {moment : engine.Moment} {catalog : Catalog} {tree after : Files.Tree}
  {template directory output : Files.Path} {suffix : String}

/-- A template by itself gives a text: it renders to the text, and this goes under the name of the template
without the suffix into a directory, where no other directory stands under this name. -/
structure GivesText (engine : Engine) (moment : engine.Moment) (catalog : Catalog) (tree : Files.Tree)
    (template directory : Files.Path) (suffix file : String) (outer : Files.Place) (shown : String) :
    Prop where
  named : template.fileName? = some (file ++ suffix)
  plain : Files.IsName file
  inside : tree.find directory = .ok (outer, .directory)
  renders : RendersTo engine moment catalog tree template shown
  free : tree.entry? (file :: outer) ≠ some .directory

/-- A text that a template gives is written under its name into the directory. -/
theorem GivesText.write_eq {file shown : String} {outer : Files.Place}
    (gives : GivesText engine moment catalog tree template directory suffix file outer shown) :
    tree.write (directory.join ⟨file⟩) (.text shown) =
      .ok (tree.put (file :: outer) (.file (.text shown))) := by
  obtain ⟨named, -, here⟩ := Files.Tree.find_eq_ok_iff.mp gives.inside
  obtain ⟨front, parts, steps⟩ := Files.Tree.exists_front_of_find gives.plain gives.inside
  exact (Files.Tree.write_eq_ok_iff parts gives.plain).mpr
    ⟨outer, Files.Tree.admissible_join gives.plain named, steps, here, gives.free, rfl⟩

/-- A text that is put there is found under its name in the directory. -/
theorem GivesText.find_eq {file shown : String} {outer : Files.Place}
    (gives : GivesText engine moment catalog tree template directory suffix file outer shown) :
    (tree.put (file :: outer) (.file (.text shown))).find (directory.join ⟨file⟩) =
      .ok (file :: outer, .file (.text shown)) :=
  (Files.Tree.exists_name_of_write_join gives.plain.noSlash gives.inside gives.write_eq).2.2.2

/-- A template by itself gives a file exactly when it gives a text, which is then put under its name into the
directory. -/
theorem generateFrom_eq_ok_iff_givesText :
    on (engine.generateFrom moment catalog template directory suffix) tree = (.ok output, after) ↔
      ∃ file outer shown, GivesText engine moment catalog tree template directory suffix file outer shown ∧
        output = directory.join ⟨file⟩ ∧ after = tree.put (file :: outer) (.file (.text shown)) := by
  rw [generateFrom_eq_ok_iff]
  constructor
  · rintro ⟨exists_, file, named, rfl, session, shown, added, rendered, written⟩
    obtain ⟨fileName, -⟩ := outputFileName_eq_ok_iff.mp named
    obtain ⟨outer, inside⟩ := Files.Tree.isDirectory_iff.mp exists_
    -- The name has no slash in it, since that of the template has none, so it stays in the directory.
    have noSlash : '/' ∉ file.toList := fun slash =>
      Files.Path.noSlash_of_fileName? fileName (by simp [slash])
    obtain ⟨plain, free, rfl, -⟩ := Files.Tree.exists_name_of_write_join noSlash inside written
    exact ⟨file, outer, shown, ⟨fileName, plain, inside, ⟨session, added, rendered⟩, free⟩, rfl, rfl⟩
  · rintro ⟨file, outer, shown, gives, rfl, rfl⟩
    obtain ⟨session, added, rendered⟩ := gives.renders
    exact ⟨Files.Tree.isDirectory_iff.mpr ⟨outer, gives.inside⟩, file,
      outputFileName_eq_ok_iff.mpr ⟨gives.named, gives.plain.notEmpty⟩, rfl, session, shown, added,
      rendered, gives.write_eq⟩

/-- A template by itself that fails leaves the whole tree as it is. It gives a file exactly when it renders to
a text that can go under its name without the suffix into the directory, which is a name without a slash.
Then the path of the file is the directory joined with this name, the text is found there, every other place
of the tree holds what it held, and every path to another place leads there as it did. -/
theorem generateFrom_effect (engine : Engine) (moment : engine.Moment) (catalog : Catalog)
    (template directory : Files.Path) (suffix : String) (tree : Files.Tree) :
    (∀ failure after, on (engine.generateFrom moment catalog template directory suffix) tree =
        (.error failure, after) →
      after = tree) ∧
    ((∃ output after, on (engine.generateFrom moment catalog template directory suffix) tree =
        (.ok output, after)) ↔
      ∃ file outer shown,
        GivesText engine moment catalog tree template directory suffix file outer shown) ∧
    ∀ output after, on (engine.generateFrom moment catalog template directory suffix) tree =
        (.ok output, after) →
      ∃ file outer shown,
        GivesText engine moment catalog tree template directory suffix file outer shown ∧
        output = directory.join ⟨file⟩ ∧
        after.find output = .ok (file :: outer, .file (.text shown)) ∧
        (∀ place, after.entry? place =
          if place = file :: outer then some (.file (.text shown)) else tree.entry? place) ∧
        ∀ path place entry, place ≠ file :: outer →
          (after.find path = .ok (place, entry) ↔ tree.find path = .ok (place, entry)) := by
  refine ⟨fun failure after => eq_of_generateFrom_error, ?_, fun output after generated => ?_⟩
  -- What is written and what is left are functions of the other three.
  · simp only [generateFrom_eq_ok_iff_givesText]
    constructor
    · rintro ⟨output, after, file, outer, shown, gives, -, -⟩
      exact ⟨file, outer, shown, gives⟩
    · rintro ⟨file, outer, shown, gives⟩
      exact ⟨_, _, file, outer, shown, gives, rfl, rfl⟩
  -- The tree behind it differs from the one before at a single place.
  · obtain ⟨file, outer, shown, gives, rfl, rfl⟩ := generateFrom_eq_ok_iff_givesText.mp generated
    refine ⟨file, outer, shown, gives, rfl, gives.find_eq, ?_, ?_⟩
    · exact Files.Tree.entry?_put gives.free _
    · exact fun path place entry apart => Files.Tree.find_put gives.free (.text shown) apart

/-- A directory with two templates, one of which has nothing but dots in front of its suffix, a directory with
two files, and the current directory beside them. -/
def crowdedTree : Files.Tree :=
  ⟨[(["t"], .directory), (["b.template", "t"], .file (.text clockText)),
    (["...template", "t"], .file (.text clockText)), (["out"], .directory),
    (["b", "out"], .file (.text "old")), (["c", "out"], .file (.text "kept"))], ["home"]⟩

/-- A name of dots leads to a directory, so nothing is written. A file that is there is overwritten with the
time, from a path that begins at the root to one that turns back, and the file beside it is kept. -/
theorem generateFrom_effect_crowded :
    (∃ failure after, on (Engine.standard.generateFrom (clockAt 2) .empty ⟨"/t/...template"⟩ ⟨"../t"⟩
        templateSuffix) crowdedTree = (.error failure, after) ∧ after = crowdedTree) ∧
      ∃ after, on (Engine.standard.generateFrom (clockAt 2) .empty ⟨"/t/b.template"⟩ ⟨"../out/"⟩
          templateSuffix) crowdedTree = (.ok ⟨"../out/b"⟩, after) ∧
        crowdedTree.readText ⟨"/out/b"⟩ = .ok "old" ∧ after.readText ⟨"/out/b"⟩ = .ok "2" ∧
        after.entry? ["c", "out"] = some (.file (.text "kept")) := by
  constructor
  · obtain ⟨failure, failed⟩ : ∃ failure,
        on (Engine.standard.generateFrom (clockAt 2) .empty ⟨"/t/...template"⟩ ⟨"../t"⟩ templateSuffix)
          crowdedTree = (.error failure, crowdedTree) :=
      exists_on_eq_error_iff_toOption.mpr (by decide +kernel)
    exact ⟨failure, _, failed, (generateFrom_effect _ _ _ _ _ _ _).1 _ _ failed⟩
  · have generated :
        on (Engine.standard.generateFrom (clockAt 2) .empty ⟨"/t/b.template"⟩ ⟨"../out/"⟩ templateSuffix)
          crowdedTree = (.ok ⟨"../out/b"⟩, crowdedTree.put ["b", "out"] (.file (.text "2"))) :=
      on_eq_ok_iff_toOption.mpr (by decide +kernel)
    obtain ⟨file, outer, shown, -, -, found, entries, -⟩ :=
      (generateFrom_effect _ _ _ _ _ _ _).2.2 _ _ generated
    -- The place that is written is not that of the other file.
    have written : (crowdedTree.put ["b", "out"] (.file (.text "2"))).find ⟨"../out/b"⟩ =
        .ok (["b", "out"], .file (.text "2")) := by decide
    obtain ⟨place, -⟩ := Prod.mk.inj (Except.ok.inj (written.symm.trans found))
    have kept := entries ["c", "out"]
    rw [← place, if_neg (by decide)] at kept
    exact ⟨_, generated, by decide, by decide, kept⟩

end UdsCatalog.Generation
