import UdsCatalog.Generation.Session
import UdsCatalog.Proofs.Generation.Printing

/-! Sessions of plain templates: adding them succeeds, and rendering prints what their nodes say. -/

namespace UdsCatalog.Generation

open Template (Plain IsPlain nodesOf)

/-- The entry of a template of plain nodes. -/
def plainEntry (name : String) (nodes : List Plain) : Template.Entry :=
  ⟨⟨name, none, nodesOf nodes, []⟩, [], []⟩

/-- No template of a session extends another one or defines blocks. -/
def AllSimple (session : Session) : Prop :=
  ∀ entry ∈ session.entries, Template.Library.isSimple entry.2.template = true

/-- In a session of simple templates nothing is inherited. -/
theorem settle_eq {session : Session} (simple : AllSimple session) :
    Template.Library.settle session = .ok session := by
  -- Entries are settled one by one, and each simple one stays as it is.
  have settled : ∀ entries : List (String × Template.Entry),
      (∀ entry ∈ entries, Template.Library.isSimple entry.2.template = true) →
      Template.Library.settleEntries session entries = .ok entries := by
    intro entries
    induction entries with
    | nil => exact fun _ => rfl
    | cons entry rest ih =>
      intro simple
      obtain ⟨head, tail⟩ := List.forall_mem_cons.mp simple
      simp [Template.Library.settleEntries, Template.Library.settleEntry, head, ih tail,
        Bind.bind, Except.bind, Pure.pure, Except.pure]
  rw [Template.Library.settle, settled _ simple]
  rfl

/-- A text that is read as plain nodes is added to a session of simple templates, in place of a
template of its name and beside all others. -/
theorem add_plain {session : Session} (simple : AllSimple session) {nodes : List Plain}
    {text : String} (plain : IsPlain nodes text) (name source : String) :
    Template.Library.add session name source text =
      (.ok (), ⟨session.entries.filter (fun (other, _) => other != name) ++
        [(name, plainEntry name nodes)]⟩) := by
  -- The entries that are kept are simple, and so is the new one.
  have simple : AllSimple ⟨session.entries.filter (fun (other, _) => other != name) ++
      [(name, plainEntry name nodes)]⟩ := by
    intro entry member
    rcases List.mem_append.mp member with kept | new
    · exact simple entry (List.mem_of_mem_filter kept)
    · rw [List.mem_singleton.mp new]
      rfl
  simp only [Template.Library.add, plain.ofText?_eq name, ← plainEntry.eq_1, settle_eq simple]

/-- So it is when the source of the text is named after it. -/
theorem addText_plain {session : Session} (simple : AllSimple session) {nodes : List Plain}
    {text : String} (plain : IsPlain nodes text) (name : String) :
    session.addText name text =
      (.ok (), ⟨session.entries.filter (fun (other, _) => other != name) ++
        [(name, plainEntry name nodes)]⟩) := by
  simp only [Session.addText, Engine.addText, Engine.addFrom, add_plain simple plain]

/-- A plain template of a session renders what its nodes print, whatever functions there are. -/
theorem render_plain {session : Session} {name : String} {nodes : List Plain} {catalog : Catalog}
    {code : Code} (known : session.find? name = some (plainEntry name nodes))
    (named : Template.areNamed nodes = true)
    (filled : ∀ layout ∈ catalog.classes, layout.items ≠ [])
    (prints : Prints [] (values catalog) nodes code) (functions : Template.Functions) :
    Engine.standard.renderCatalog session functions name catalog = .ok code.text := by
  -- Nothing is inherited, and the outermost frame is that of the template itself.
  have rendered := Template.render_nodes
    (Template.Library.surroundings session Template.Library.deepest) nodes named prints
    ⟨[⟨name, [], none⟩], values catalog, "", none, functions⟩ (.template name) rfl
  simp only [Engine.renderCatalog, context_eq filled, Template.Library.renderWith, known, plainEntry,
    List.getLast?_nil, Option.bind_none, Option.getD_none, rendered, Template.Scene.print, Bind.bind,
    Except.bind, Pure.pure, Except.pure]
  rw [String.empty_append]

/-- A session with the built-in template for declarations. -/
def headerSession : Session := ⟨[(headerName, plainEntry headerName headerNodes)]⟩

/-- A session with both built-in templates. -/
def pairSession : Session :=
  ⟨[(headerName, plainEntry headerName headerNodes),
    (sourceName, plainEntry sourceName sourceNodes)]⟩

/-- The built-in template for declarations is added to a session without templates. -/
theorem addFixed_header (tree : Files.Tree) :
    Session.fresh.addFixed tree .builtIn headerName = (.ok (), headerSession) := by
  -- The name of the template is one of the two that are built in.
  have builtIn : builtInTemplate? ⟨headerName⟩ = some headerTemplate := by
    rw [builtInTemplate?, if_pos (by decide)]
  have simple : AllSimple Session.fresh := fun _ member => nomatch member
  simp only [Session.addFixed, Engine.addFixed, builtIn]
  exact addText_plain simple isPlain_headerTemplate headerName

/-- The built-in template for definitions is added beside it. -/
theorem addFixed_source (tree : Files.Tree) :
    headerSession.addFixed tree .builtIn sourceName = (.ok (), pairSession) := by
  -- The name is the other one, so the first template is kept beside the new one.
  have builtIn : builtInTemplate? ⟨sourceName⟩ = some sourceTemplate := by
    rw [builtInTemplate?, if_neg (by decide), if_pos (by decide)]
  have simple : AllSimple headerSession := by
    intro entry member
    rw [List.mem_singleton.mp member]
    rfl
  simp only [Session.addFixed, Engine.addFixed, builtIn]
  refine (addText_plain simple isPlain_sourceTemplate sourceName).trans ?_
  have kept : headerSession.entries.filter (fun (other, _) => other != sourceName) =
      headerSession.entries := by
    have apart : (headerName != sourceName) = true := by decide
    simp only [headerSession, List.filter_cons, List.filter_nil, apart, if_true]
  rw [kept]
  rfl

/-- So it is when the template for declarations has just been added to a fresh session. -/
theorem addFixed_source_of_fresh (tree : Files.Tree) :
    (Session.fresh.addFixed tree .builtIn headerName).2.addFixed tree .builtIn sourceName =
      (.ok (), pairSession) := by
  rw [addFixed_header]
  exact addFixed_source tree

/-- The template for declarations renders those of a catalog whose classes have fields. -/
theorem render_header {catalog : Catalog} (filled : ∀ layout ∈ catalog.classes, layout.items ≠ []) :
    headerSession.render headerName catalog = .ok (headerCode catalog).text := by
  have named := isPlain_headerTemplate.areNamed
  have known : headerSession.find? headerName = some (plainEntry headerName headerNodes) := by
    simp only [headerSession, Template.Library.find?, List.lookup_cons, beq_self_eq_true]
  exact render_plain known named filled (prints_header catalog) .none

/-- The template for definitions renders its definitions. -/
theorem render_source {catalog : Catalog} (filled : ∀ layout ∈ catalog.classes, layout.items ≠ []) :
    pairSession.render sourceName catalog = .ok (sourceCode catalog).text := by
  have named := isPlain_sourceTemplate.areNamed
  have known : pairSession.find? sourceName = some (plainEntry sourceName sourceNodes) := by
    have apart : (sourceName == headerName) = false := by decide
    simp only [pairSession, Template.Library.find?, List.lookup_cons, apart, beq_self_eq_true]
  exact render_plain known named filled (prints_source catalog) .none

end UdsCatalog.Generation
