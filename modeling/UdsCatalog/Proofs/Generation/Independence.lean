import Mathlib
import UdsCatalog.Proofs.Generation.Locality
import UdsCatalog.Proofs.Generation.Output
import UdsCatalog.Proofs.Generation.Sessions

/-!
Templates that are independent of each other. What a template file by itself renders to is compared with what it
gives in a session with another one: for a template that mentions neither of the two and renders alike at
different moments, a local engine makes no difference.
-/

namespace UdsCatalog.Generation

open Work

variable {engine : Engine} {mentions : String → List String} {catalog : Catalog} {tree after : Files.Tree}
  {root directory : Files.Path} {source : TemplateSource}

/-! ### Sessions -/

section Sessions

variable {moment : engine.Moment} {session next : engine.Library} {name : String}

/-- A template is added from a file when the file is a text that can be added. -/
theorem addFile_eq_ok_iff {path : Files.Path} :
    engine.addFile session tree name path = (.ok (), next) ↔ ∃ text, tree.readText path = .ok text ∧
      engine.add session name (Text.quotedPath path.text) text = (.ok (), next) := by
  -- Whether the file is there at all decides only which failure is told.
  unfold Engine.addFile
  cases read : tree.readText path with
  | error fault =>
    split <;> simp
  | ok text =>
    rw [if_pos (Files.Tree.isFile_of_readText read)]
    simp only [Engine.addFrom, Except.ok.injEq, exists_eq_left']
    rcases engine.add session name (Text.quotedPath path.text) text with ⟨failure | ⟨⟩, later⟩ <;> simp

/-- A template is rendered when the catalog can be shown and the library renders what is seen of it. -/
theorem renderCatalog_eq_ok_iff {shown : String} :
    engine.renderCatalog session moment name catalog = .ok shown ↔ ∃ given, context catalog = .ok given ∧
      engine.render session moment name given = .ok shown := by
  rw [Engine.renderCatalog, bind_eq_ok_iff]
  refine exists_congr fun given => and_congr_right fun _ => ?_
  cases engine.render session moment name given <;> simp [Pure.pure, Except.pure, throw, throwThe,
    MonadExceptOf.throw]

/-- The text of one of the two templates, wherever they come from. -/
def TemplateSource.text? (source : TemplateSource) (tree : Files.Tree) (name : String) : Option String :=
  match source with
  | .builtIn => builtInTemplate? ⟨name⟩
  | .directory root => (tree.readText (root.join ⟨name⟩)).toOption

/-- How messages name the text of one of the two templates. -/
def TemplateSource.label (source : TemplateSource) (name : String) : String :=
  match source with
  | .builtIn => "'" ++ name ++ "'"
  | .directory root => Text.quotedPath (root.join ⟨name⟩).text

/-- One of the two templates is added when there is a text for it that can be added. -/
theorem addFixed_eq_ok_iff :
    engine.addFixed session tree source name = (.ok (), next) ↔ ∃ text, source.text? tree name = some text ∧
      engine.add session name (source.label name) text = (.ok (), next) := by
  cases source with
  | builtIn =>
    simp only [Engine.addFixed, TemplateSource.text?, TemplateSource.label]
    cases builtInTemplate? ⟨name⟩ with
    | none => simp
    | some text =>
      simp only [Engine.addText, Engine.addFrom, Option.some.injEq, exists_eq_left']
      rcases engine.add session name ("'" ++ name ++ "'") text with ⟨failure | ⟨⟩, later⟩ <;> simp
  | directory root =>
    simp only [Engine.addFixed, addFile_eq_ok_iff, TemplateSource.text?, TemplateSource.label]
    cases tree.readText (root.join ⟨name⟩) <;> simp [Except.toOption]

end Sessions

/-- The text that a template file by itself renders to at a moment. -/
def RendersTo (engine : Engine) (moment : engine.Moment) (catalog : Catalog) (tree : Files.Tree)
    (path : Files.Path) (shown : String) : Prop :=
  ∃ session, engine.addFile engine.empty tree path.text path = (.ok (), session) ∧
    engine.renderCatalog session moment path.text catalog = .ok shown

/-- What a template renders to depends on its text only. -/
theorem rendersTo_congr {moment : engine.Moment} {other : Files.Tree} {path : Files.Path}
    (same : ∀ text, tree.readText path = .ok text ↔ other.readText path = .ok text) (shown : String) :
    RendersTo engine moment catalog tree path shown ↔ RendersTo engine moment catalog other path shown := by
  -- The tree is asked for this one text only.
  simp only [RendersTo, addFile_eq_ok_iff, same]

/-- The names under which the two templates of a directory are known to sessions. -/
def loadedNames (root : Files.Path) : List String :=
  [headerName, sourceName, (root.join ⟨headerName⟩).text, (root.join ⟨sourceName⟩).text]

/-- All these names end as those of templates do. -/
theorem ends_of_mem_loadedNames {name : String} (member : name ∈ loadedNames root) :
    templateSuffix.toList <:+ name.toList := by
  have header : templateSuffix.toList <:+ headerName.toList := by decide
  have source : templateSuffix.toList <:+ sourceName.toList := by decide
  simp only [loadedNames, List.mem_cons, List.not_mem_nil, or_false] at member
  rcases member with rfl | rfl | rfl | rfl
  · exact header
  · exact source
  · exact header.trans (Files.Path.suffix_join root ⟨headerName⟩)
  · exact source.trans (Files.Path.suffix_join root ⟨sourceName⟩)

/-- Each of the two templates is known by its name and by its path. -/
theorem mem_loadedNames {name : String} (named : name ∈ [headerName, sourceName]) :
    name ∈ loadedNames root ∧ (root.join ⟨name⟩).text ∈ loadedNames root := by
  simp only [List.mem_cons, List.not_mem_nil, or_false] at named
  rcases named with rfl | rfl <;> simp [loadedNames]

/-- The text of one of the two templates of a directory mentions neither of them by any of its names, unless
it is the only name of the template itself. -/
def MentionsNoOther (mentions : String → List String) (root : Files.Path) (name text : String) : Prop :=
  Template.StandsAlone (mentions text) [name, (root.join ⟨name⟩).text] (loadedNames root)

/-- One of the two templates of a directory is independent of the other one, and of the moment as far as two
moments tell. -/
structure IsIndependent (engine : Engine) (mentions : String → List String) (catalog : Catalog)
    (tree : Files.Tree) (root : Files.Path) (name : String) (moment other : engine.Moment) : Prop where
  alone : ∀ text, tree.readText (root.join ⟨name⟩) = .ok text → MentionsNoOther mentions root name text
  steady : ∀ shown, RendersTo engine moment catalog tree (root.join ⟨name⟩) shown ↔
    RendersTo engine other catalog tree (root.join ⟨name⟩) shown

/-- Two moments are enough to tell that a template is independent at the second of them. -/
theorem IsIndependent.later {name : String} {moment other : engine.Moment}
    (template : IsIndependent engine mentions catalog tree root name moment other) :
    IsIndependent engine mentions catalog tree root name other other :=
  ⟨template.alone, fun _ => Iff.rfl⟩

/-- Where one of the two templates is read as before, it is independent as before. -/
theorem IsIndependent.congr {name : String} {moment other : engine.Moment} {later : Files.Tree}
    (template : IsIndependent engine mentions catalog tree root name moment other)
    (same : ∀ text, later.readText (root.join ⟨name⟩) = .ok text ↔
      tree.readText (root.join ⟨name⟩) = .ok text) :
    IsIndependent engine mentions catalog later root name moment other where
  alone text read := template.alone text ((same text).mp read)
  steady shown := by rw [rendersTo_congr same, rendersTo_congr same, template.steady]

section One

variable {name : String} {moment other : engine.Moment}

/-- A template that is independent is added and rendered in a session of the other one as it is by itself. -/
theorem IsIndependent.addFixed_render_iff
    (template : IsIndependent engine mentions catalog tree root name moment other)
    (isLocal : engine.IsLocal mentions) (named : name ∈ [headerName, sourceName])
    (same : ∀ text, source.text? tree name = some text ↔ tree.readText (root.join ⟨name⟩) = .ok text)
    {session : engine.Library} (holds : engine.Holds mentions (loadedNames root) session) (shown : String) :
    (∃ next, engine.addFixed session tree source name = (.ok (), next) ∧
      engine.renderCatalog next moment name catalog = .ok shown) ↔
        RendersTo engine other catalog tree (root.join ⟨name⟩) shown := by
  obtain ⟨fixed, own⟩ : name ∈ loadedNames root ∧ (root.join ⟨name⟩).text ∈ loadedNames root :=
    mem_loadedNames named
  -- The text is the same in both sessions; only the name that it has there and the other entries differ.
  have compared : ∀ text given, tree.readText (root.join ⟨name⟩) = .ok text →
      ((∃ next, engine.add session name (source.label name) text = (.ok (), next) ∧
          engine.render next moment name given = .ok shown) ↔
        ∃ next, engine.add engine.empty (root.join ⟨name⟩).text
            (Text.quotedPath (root.join ⟨name⟩).text) text = (.ok (), next) ∧
          engine.render next moment (root.join ⟨name⟩).text given = .ok shown) :=
    fun text given read => isLocal _ _ _ _ _ _ (fun _ => ends_of_mem_loadedNames) holds .empty fixed own
      (template.alone text read) moment _ _ given shown
  rw [← template.steady]
  simp only [RendersTo, addFixed_eq_ok_iff, addFile_eq_ok_iff, renderCatalog_eq_ok_iff, same]
  constructor
  · rintro ⟨next, ⟨text, read, added⟩, given, seen, rendered⟩
    obtain ⟨fresh, added, rendered⟩ := (compared text given read).mp ⟨next, added, rendered⟩
    exact ⟨fresh, ⟨text, read, added⟩, given, seen, rendered⟩
  · rintro ⟨fresh, ⟨text, read, added⟩, given, seen, rendered⟩
    obtain ⟨next, added, rendered⟩ := (compared text given read).mpr ⟨fresh, added, rendered⟩
    exact ⟨next, ⟨text, read, added⟩, given, seen, rendered⟩

/-- After an independent template has been added, the session still holds none but the two. -/
theorem IsIndependent.holds_of_addFixed
    (template : IsIndependent engine mentions catalog tree root name moment other)
    (named : name ∈ [headerName, sourceName])
    (same : ∀ text, source.text? tree name = some text ↔ tree.readText (root.join ⟨name⟩) = .ok text)
    {session next : engine.Library} (holds : engine.Holds mentions (loadedNames root) session)
    (added : engine.addFixed session tree source name = (.ok (), next)) :
    engine.Holds mentions (loadedNames root) next := by
  obtain ⟨text, has, added⟩ := addFixed_eq_ok_iff.mp added
  exact .add holds (mem_loadedNames named).1
    ((template.alone text ((same text).mp has)).mono (by simp)) added

end One

/-! ### Plain templates -/

/-- What the text of a plain template is rendered to does not depend on the moment. -/
theorem rendersTo_plain_iff {path : Files.Path} {nodes : List Template.Plain} {text : String} {code : Code}
    (plain : Template.IsPlain nodes text) (read : tree.readText path = .ok text)
    (filled : ∀ layout ∈ catalog.classes, layout.items ≠ []) (prints : Prints [] (values catalog) nodes code)
    (functions : Template.Functions) (shown : String) :
    RendersTo Engine.standard functions catalog tree path shown ↔ shown = code.text := by
  have simple : AllSimple Session.fresh := fun _ member => nomatch member
  have added := add_plain simple plain path.text (Text.quotedPath path.text)
  have known : Template.Library.find? ⟨[(path.text, plainEntry path.text nodes)]⟩ path.text =
      some (plainEntry path.text nodes) := by
    simp only [Template.Library.find?, List.lookup_cons, beq_self_eq_true]
  have rendered := render_plain known plain.areNamed filled prints functions
  constructor
  · rintro ⟨session, own, shows⟩
    obtain ⟨other, same, own⟩ := addFile_eq_ok_iff.mp own
    obtain rfl := Except.ok.inj (read.symm.trans same)
    obtain rfl := (Prod.mk.inj (added.symm.trans own)).2
    exact Except.ok.inj (shows.symm.trans rendered)
  · rintro rfl
    exact ⟨_, addFile_eq_ok_iff.mpr ⟨text, read, added⟩, rendered⟩

/-- A plain template of a directory is independent of the other one, and of the moment. -/
theorem isIndependent_of_isPlain {name : String} {nodes : List Template.Plain} {text : String} {code : Code}
    (plain : Template.IsPlain nodes text) (read : tree.readText (root.join ⟨name⟩) = .ok text)
    (filled : ∀ layout ∈ catalog.classes, layout.items ≠ []) (prints : Prints [] (values catalog) nodes code)
    (functions later : Template.Functions) :
    IsIndependent Engine.standard Template.mentionsOfText catalog tree root name functions later where
  alone other same := by
    obtain rfl := Except.ok.inj (read.symm.trans same)
    rw [MentionsNoOther, plain.mentionsOfText_eq]
    exact .nil _ _
  steady shown := by
    rw [rendersTo_plain_iff plain read filled prints, rendersTo_plain_iff plain read filled prints]

/-! ### Templates that ask for the time -/

/-- A function that tells how many seconds have passed. -/
def clockAt (seconds : Int) : Template.Functions := fun name =>
  if name = "now" then
    some fun arguments =>
      match arguments.lookup "timestamp" with
      | some (.bool true) => .ok (.int seconds)
      -- Dates are not told.
      | _ => .error "Function `now` was called without timestamp"
  else none

/-- A template that asks for the time. -/
def clockText : String := "\x7b\x7b now(timestamp=true) \x7d\x7d"

end UdsCatalog.Generation
