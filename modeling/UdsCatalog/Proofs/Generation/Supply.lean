import UdsCatalog.Proofs.Catalog.Services
import UdsCatalog.Proofs.Catalog.Layouts
import UdsCatalog.Proofs.Generation.Sessions
import UdsCatalog.Proofs.Template.Supply

/-!
Every catalog that is built supplies the two built-in templates with all that they reach, so both of
them are rendered.
-/

namespace UdsCatalog.Generation

open Template (Plain IsPlain AreSupplied)

/-- The classes of a catalog that is built have fields. -/
theorem items_ne_nil_of_build {definitions : Definitions} {catalog : Catalog}
    (built : Catalog.build definitions = .ok catalog) :
    ∀ layout ∈ catalog.classes, layout.items ≠ [] :=
  LayoutClass.items_ne_nil (Catalog.build_eq_ok_iff.mp built).2

/-- Nodes that print some code are supplied with what they reach. -/
theorem Prints.areSupplied {bound given : List (String × Json)} {nodes : List Plain} {code : Code}
    (prints : Prints bound given nodes code) : AreSupplied ⟨bound, given⟩ nodes := by
  -- What has a text has all that it is made of.
  rw [← Template.isSome_textOf?_iff, prints]
  rfl

/-- The template for declarations is rendered beside that for definitions as it is alone. -/
theorem render_header_of_pair {catalog : Catalog}
    (filled : ∀ layout ∈ catalog.classes, layout.items ≠ []) :
    pairSession.render headerName catalog = .ok (headerCode catalog).text := by
  have named := isPlain_headerTemplate.areNamed
  have known : pairSession.find? headerName = some (plainEntry headerName headerNodes) := by
    simp only [pairSession, Template.Library.find?, List.lookup_cons, beq_self_eq_true]
  exact render_plain known named filled (prints_header catalog) .none

/-- For every catalog that is built, the values for templates are there. Each of the two built-in
templates is read as plain nodes that are supplied by these values: what is printed is a text or a
whole number, what is gone through is an array, and what decides is a truth value. Both are rendered. -/
theorem built_templates_render {definitions : Definitions} {catalog : Catalog}
    (built : Catalog.build definitions = .ok catalog) (tree : Files.Tree) :
    let withHeader := Session.fresh.addFixed tree .builtIn headerName
    let withSource := withHeader.2.addFixed tree .builtIn sourceName
    withHeader.1 = .ok () ∧ withSource.1 = .ok () ∧
    ∃ given, context catalog = .ok given ∧
      (IsPlain headerNodes headerTemplate ∧ AreSupplied ⟨[], given⟩ headerNodes ∧
        ∃ text, withHeader.2.render headerName catalog = .ok text ∧
          withSource.2.render headerName catalog = .ok text) ∧
      (IsPlain sourceNodes sourceTemplate ∧ AreSupplied ⟨[], given⟩ sourceNodes ∧
        ∃ text, withSource.2.render sourceName catalog = .ok text) := by
  -- A class without fields would have no name to show, and no such class is built.
  intro withHeader withSource
  have filled := items_ne_nil_of_build built
  -- The two templates are added one after the other, and each addition is computed once.
  have header : withHeader = (.ok (), headerSession) := addFixed_header tree
  have source : withSource = (.ok (), pairSession) := addFixed_source_of_fresh tree
  rw [header, source]
  exact ⟨rfl, rfl, values catalog, context_eq filled,
    ⟨isPlain_headerTemplate, (prints_header catalog).areSupplied, _, render_header filled,
      render_header_of_pair filled⟩,
    ⟨isPlain_sourceTemplate, (prints_source catalog).areSupplied, _, render_source filled⟩⟩

/-- Definitions of nothing but a service without sub-functions and a field of unknown size. -/
def sizeless : Definitions where
  services := ⟨⟨"serv.json"⟩, [⟨"a", "", "10", "", ""⟩]⟩
  subFunctions := ⟨⟨"serv_sub.json"⟩, []⟩
  layouts := ⟨⟨"req_resp.json"⟩, [⟨"c", "p", "Req", 1, "variable", none⟩]⟩

/-- Neither the table of sub-functions that is empty nor the size that is not there stands in the way. -/
theorem built_templates_render_sizeless : ∃ catalog, Catalog.build sizeless = .ok catalog ∧
    ∃ given, context catalog = .ok given ∧ AreSupplied ⟨[], given⟩ headerNodes ∧
      AreSupplied ⟨[], given⟩ sourceNodes := by
  have builds : (Catalog.build sizeless).toOption.isSome = true := by decide
  cases built : Catalog.build sizeless with
  | error rejection => simp [built, Except.toOption] at builds
  | ok catalog =>
    -- The size that is missing is never printed, since a test stands in front of it.
    obtain ⟨-, -, given, shown, ⟨-, header, -⟩, -, source, -⟩ :=
      built_templates_render built .empty
    exact ⟨catalog, rfl, given, shown, header, source⟩

end UdsCatalog.Generation
