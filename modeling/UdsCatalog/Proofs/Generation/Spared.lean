import Mathlib
import UdsCatalog.Proofs.Generation.Effect

/-!
A template by itself beside the file that it gives. The file has the name of the template without the suffix,
so only an empty suffix lets a template overwrite itself.
-/

namespace UdsCatalog.Generation

open Work

variable {engine : Engine} {moment : engine.Moment} {catalog : Catalog} {tree after : Files.Tree}
  {template directory output : Files.Path} {suffix : String}

/-- A path leads to something that stands in a directory itself, and not further below. -/
def StandsIn (tree : Files.Tree) (path directory : Files.Path) : Prop :=
  ∃ name outer entry, tree.find directory = .ok (outer, .directory) ∧
    tree.find path = .ok (name :: outer, entry)

/-- A template is spared by what is written: to another path, which leads to another place, so that the
template is found as it was. -/
structure IsSpared (tree after : Files.Tree) (template output : Files.Path) : Prop where
  otherPath : output ≠ template
  otherPlace : ∀ place entry other, tree.find template = .ok (place, entry) →
    after.find output ≠ .ok (place, other)
  unchanged : after.find template = tree.find template

/-- A template by itself that gives a file stands under its name, and the file stands under the name without
the suffix in the directory. Nothing else changes. -/
theorem exists_places_of_generateFrom
    (generated : on (engine.generateFrom moment catalog template directory suffix) tree =
      (.ok output, after)) :
    ∃ source shown file around outer,
      tree.find template = .ok ((file ++ suffix) :: around, .file (.text source)) ∧
      tree.find directory = .ok (outer, .directory) ∧
      RendersTo engine moment catalog tree template shown ∧
      tree.entry? (file :: outer) ≠ some .directory ∧
      after = tree.put (file :: outer) (.file (.text shown)) ∧
      after.find output = .ok (file :: outer, .file (.text shown)) := by
  obtain ⟨file, outer, shown, gives, rfl, rfl⟩ := generateFrom_eq_ok_iff_givesText.mp generated
  obtain ⟨session, added, -⟩ := gives.renders
  -- The template is a file, so its path ends in its name, which is that of the file with the suffix.
  obtain ⟨source, read, -⟩ := addFile_eq_ok_iff.mp added
  obtain ⟨place, found⟩ := Files.Tree.readText_eq_ok_iff.mp read
  obtain ⟨front, name, around, parts, plain, -, rfl⟩ := Files.Tree.exists_name_of_find found
  have ends : template.parts.getLast? = some name := by rw [parts, List.getLast?_concat]
  obtain rfl : name = file ++ suffix := Option.some.inj ((plain.fileName?_eq ends).symm.trans gives.named)
  exact ⟨source, shown, file, around, outer, found, gives.inside, gives.renders, gives.free, rfl,
    gives.find_eq⟩

/-- A template by itself that gives a file is there, the file holds what the template renders to, and the
template is spared exactly when the suffix is not empty or the directory is not the one that the template
stands in. -/
theorem template_isSpared_iff
    (generated : on (engine.generateFrom moment catalog template directory suffix) tree =
      (.ok output, after)) :
    (∃ source shown, tree.readText template = .ok source ∧
        RendersTo engine moment catalog tree template shown ∧ after.readText output = .ok shown) ∧
      (IsSpared tree after template output ↔ suffix ≠ "" ∨ ¬ StandsIn tree template directory) := by
  obtain ⟨source, shown, file, around, outer, found, own, renders, free, rfl, standing⟩ :=
    exists_places_of_generateFrom generated
  refine ⟨⟨source, shown, Files.Tree.readText_eq_ok_iff.mpr ⟨_, found⟩, renders,
    Files.Tree.readText_eq_ok_iff.mpr ⟨_, standing⟩⟩, ?_, ?_⟩
  · -- With an empty suffix both names are the same, and in one directory so are the places.
    intro spared
    by_contra both
    simp only [ne_eq, not_or, not_not] at both
    obtain ⟨rfl, name, place, entry, directory_, stands⟩ := both
    rw [own, Except.ok.injEq, Prod.mk.injEq] at directory_
    obtain ⟨rfl, -⟩ := directory_
    rw [found, Except.ok.injEq, Prod.mk.injEq, List.cons.injEq] at stands
    obtain ⟨⟨-, rfl⟩, -⟩ := stands
    rw [String.append_empty] at found
    exact spared.otherPlace _ _ _ found standing
  · -- Otherwise the names or the directories differ, and the write changes no other place.
    intro either
    have apart : (file ++ suffix) :: around ≠ file :: outer := by
      intro same
      obtain ⟨names, rfl⟩ := List.cons.inj same
      rcases either with filled | elsewhere
      · refine filled (String.toList_injective ?_)
        have chars := congrArg String.toList names
        rw [String.toList_append] at chars
        simpa using chars
      · exact elsewhere ⟨_, _, _, own, found⟩
    have unchanged := (Files.Tree.find_put free (.text shown) apart).mpr found
    have otherPlace : ∀ place entry other, tree.find template = .ok (place, entry) →
        (tree.put (file :: outer) (.file (.text shown))).find output ≠ .ok (place, other) := by
      intro place entry other leads written
      rw [found, Except.ok.injEq, Prod.mk.injEq] at leads
      rw [standing, Except.ok.injEq, Prod.mk.injEq] at written
      exact apart (leads.1.trans written.1.symm)
    refine ⟨?_, otherPlace, unchanged.trans found.symm⟩
    -- In particular the output is not the path of the template.
    rintro rfl
    exact otherPlace _ _ _ found unchanged

/-- A directory with two templates, one of which has no suffix in its name. -/
def loneTree : Files.Tree :=
  ⟨[(["t"], .directory), (["a.txt", "t"], .file (.text "\x7b\x7b 1 \x7d\x7d")),
    (["b.template", "t"], .file (.text "\x7b\x7b 2 \x7d\x7d"))], []⟩

/-- What the template in its own directory gives. -/
theorem on_generateFrom_lone (template output text suffix : String) (place : Files.Place)
    (checked : (on (generateFrom .empty ⟨template⟩ ⟨"t"⟩ suffix) loneTree).1.toOption = some ⟨output⟩ ∧
      (on (generateFrom .empty ⟨template⟩ ⟨"t"⟩ suffix) loneTree).2 =
        loneTree.put place (.file (.text text))) :
    on (generateFrom .empty ⟨template⟩ ⟨"t"⟩ suffix) loneTree =
      (.ok ⟨output⟩, loneTree.put place (.file (.text text))) :=
  on_eq_ok_iff_toOption.mpr checked

/-- In its own directory a template with the suffix in its name is spared. -/
theorem template_isSpared_iff_own_directory :
    ∃ after, on (generateFrom .empty ⟨"t/b.template"⟩ ⟨"t"⟩ templateSuffix) loneTree =
        (.ok ⟨"t/b"⟩, after) ∧
      IsSpared loneTree after ⟨"t/b.template"⟩ ⟨"t/b"⟩ := by
  have generated := on_generateFrom_lone "t/b.template" "t/b" "2" templateSuffix ["b", "t"]
    (by decide +kernel)
  have filled : templateSuffix ≠ "" := by decide
  exact ⟨_, generated, (template_isSpared_iff generated).2.mpr (.inl filled)⟩

/-- With an empty suffix a template that is rendered into its own directory is lost. -/
theorem generateFrom_overwrites_template :
    ∃ after, on (generateFrom .empty ⟨"t/a.txt"⟩ ⟨"t"⟩ "") loneTree = (.ok ⟨"t/a.txt"⟩, after) ∧
      loneTree.readText ⟨"t/a.txt"⟩ = .ok "\x7b\x7b 1 \x7d\x7d" ∧
      after.readText ⟨"t/a.txt"⟩ = .ok "1" := by
  have generated := on_generateFrom_lone "t/a.txt" "t/a.txt" "1" "" ["a.txt", "t"]
    (by decide +kernel)
  exact ⟨_, generated, by decide, by decide⟩

end UdsCatalog.Generation
