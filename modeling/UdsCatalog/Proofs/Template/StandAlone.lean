import Mathlib
import UdsCatalog.Named
import UdsCatalog.Proofs.Template.PlainText
import UdsCatalog.Proofs.Template.Renaming

/-!
Templates that stand alone. Adding such a template to a library depends on its text only, and so does
what it renders, whatever its name is and whichever other templates the library has.
-/

namespace UdsCatalog.Template

/-- The nodes of a text that is a template. -/
def nodesOfText? (text : String) : Option (List Node) := (Tree.ofText? "" text).map Tree.nodes

/-- A template is read from its text, and only its name is given from outside. -/
theorem ofText?_eq (name text : String) :
    Tree.ofText? name text =
      (nodesOfText? text).map fun nodes => ⟨name, parentOf nodes, nodes, blocksOf nodes⟩ := by
  -- The text is cut into pieces and nodes first, and the name is only put beside them.
  unfold nodesOfText? Tree.ofText?
  cases Piece.ofText? text with
  | none => rfl
  | some pieces =>
    simp only [Option.bind_eq_bind, Option.bind_some]
    cases Nesting.start.nodes? pieces with
    | none => rfl
    | some nodes =>
      simp only [Option.bind_some]
      split <;> rfl

/-- The template that nodes extend is among those that they mention. -/
theorem mem_mentionsOf_of_parentOf {nodes : List Node} {parent : String}
    (extended : parentOf nodes = some parent) : parent ∈ mentionsOf nodes := by
  -- The parent is that of the first node that extends one.
  rw [parentOf] at extended
  induction nodes with
  | nil => cases extended
  | cons node rest ih =>
    rw [mentionsOf, List.mem_append]
    rw [List.findSome?_cons] at extended
    cases node <;> first
      | exact .inr (ih extended)
      | exact .inl (by rw [Node.mentions, List.mem_singleton]; exact (Option.some.inj extended).symm)

namespace Library

/-- The library with an entry behind all others, in place of one of the same name. -/
def having (library : Library) (name : String) (entry : Entry) : Library :=
  ⟨library.entries.filter (fun (other, _) => other != name) ++ [(name, entry)]⟩

/-- The new entry is found under its name, and all others under theirs. -/
theorem find?_having (library : Library) (name : String) (entry : Entry) (asked : String) :
    (library.having name entry).find? asked =
      if asked = name then some entry else library.find? asked := by
  -- What stood under the name is left out, so the new entry is met first.
  rw [find?, having, List.lookup_append]
  by_cases same : asked = name
  · have leftOut : (library.entries.filter fun (other, _) => other != name).lookup asked = none := by
      rw [List.lookup_eq_none_iff]
      intro entry member
      have kept : (entry.1 != name) = true := (List.mem_filter.mp member).2
      simpa [same, bne_iff_ne, ne_comm] using kept
    rw [leftOut]
    simp [same]
  · have differs : (asked == name) = false := beq_false_of_ne same
    simp [lookup_filter_ne same, same, List.lookup_cons, differs, find?]

/-- All templates of a library extend no other ones. -/
def AllRooted (library : Library) : Prop :=
  ∀ entry ∈ library.entries, ∃ nodes, entry.2 = rooted entry.1 nodes

/-- A library without templates has none that extends another one. -/
theorem allRooted_empty : AllRooted empty := fun _ member => nomatch member

/-- A template that extends no other one can be added to those that do not. -/
theorem AllRooted.having {library : Library} (all : AllRooted library) (name : String)
    (nodes : List Node) : AllRooted (library.having name (rooted name nodes)) := by
  intro entry member
  rcases List.mem_append.mp member with kept | new
  · exact all entry (List.mem_of_mem_filter kept)
  · rw [List.mem_singleton.mp new]
    exact ⟨nodes, rfl⟩

/-- A template that extends no other one inherits nothing. -/
theorem settleEntry_rooted (library : Library) (name : String) (nodes : List Node)
    {blocks : List (String × List (String × List Node))}
    (settled : blocks = [] ∨ blocks = (rooted name nodes).blocks) :
    library.settleEntry ⟨⟨name, none, nodes, blocksOf nodes⟩, [], blocks⟩ =
      .ok (rooted name nodes) := by
  rw [settleEntry]
  split
  · -- Without blocks there is nothing to settle.
    rename_i simple
    have none : blocksOf nodes = [] := by simpa [isSimple] using simple
    have blocks : blocks = [] := by simpa [rooted, none] using settled
    simp [blocks, rooted, none]
  · rfl

/-- A template that extends none but itself and missing ones is refused. -/
theorem settleEntry_error {library : Library} {parent : String} {template : Tree}
    (extended : template.parent = some parent)
    (alone : library.find? parent = none ∨
      ∃ entry, library.find? parent = some entry ∧ entry.template = template) :
    ∃ failure, library.settleEntry ⟨template, [], []⟩ = .error failure := by
  have notSimple : isSimple template = false := by simp [isSimple, extended]
  have line : ∃ failure, library.line template.name (library.entries.length + 2) template [] =
      .error failure := by
    rw [line]
    rcases alone with missing | ⟨entry, known, own⟩
    · exact ⟨_, by simp [extended, missing]; rfl⟩
    · -- The line comes back to where it began.
      exact ⟨_, by simp [extended, known, own, Library.line]; rfl⟩
  obtain ⟨failure, line⟩ := line
  exact ⟨failure, by simp [settleEntry, notSimple, line, Bind.bind, Except.bind]⟩

/-- Entries of templates that extend no other ones stay as they are. -/
theorem settleEntries_append (library : Library) {entries : List (String × Entry)}
    (all : ∀ entry ∈ entries, ∃ nodes, entry.2 = rooted entry.1 nodes)
    (rest : List (String × Entry)) :
    library.settleEntries (entries ++ rest) =
      (library.settleEntries rest).map fun settled => entries ++ settled := by
  -- Entries are settled one after the other, and these are settled already.
  induction entries with
  | nil =>
    rw [List.nil_append]
    cases library.settleEntries rest <;> rfl
  | cons entry entries ih =>
    obtain ⟨⟨nodes, own⟩, others⟩ := List.forall_mem_cons.mp all
    obtain ⟨name, entry⟩ := entry
    obtain rfl : entry = rooted name nodes := own
    have settled : library.settleEntry (rooted name nodes) = .ok (rooted name nodes) :=
      settleEntry_rooted library name nodes (.inr rfl)
    rw [List.cons_append, settleEntries, settled, ih others]
    cases library.settleEntries rest <;> rfl

/-- Among templates that extend no other ones only a new one has something to settle. -/
theorem AllRooted.settle_having {library : Library} (all : AllRooted library) (name : String)
    (entry : Entry) :
    (library.having name entry).settle =
      ((library.having name entry).settleEntry entry).map fun settled => library.having name settled := by
  -- Entries that are rooted already settle to themselves.
  have kept : ∀ entry ∈ library.entries.filter (fun (other, _) => other != name),
      ∃ nodes, entry.2 = rooted entry.1 nodes :=
    fun entry member => all entry (List.mem_of_mem_filter member)
  rw [settle]
  have entries : (library.having name entry).entries =
    library.entries.filter (fun (other, _) => other != name) ++ [(name, entry)] := rfl
  rw [entries, settleEntries_append _ kept, settleEntries]
  cases (library.having name entry).settleEntry entry <;> rfl

/-- Adding a text that mentions no template but itself and missing ones succeeds when it is a template
that extends none. -/
theorem AllRooted.add_eq_ok_iff {library after : Library} (all : AllRooted library)
    {name source text : String}
    (alone : ∀ nodes, nodesOfText? text = some nodes → ∀ mentioned ∈ mentionsOf nodes,
      mentioned = name ∨ library.find? mentioned = none) :
    library.add name source text = (.ok (), after) ↔
      ∃ nodes, nodesOfText? text = some nodes ∧ parentOf nodes = none ∧
        after = library.having name (rooted name nodes) := by
  -- The template is read, put into the library, and settled there with all others.
  rw [add, ofText?_eq]
  cases read : nodesOfText? text with
  | none => simp
  | some nodes =>
    simp only [Option.map_some, Option.some.injEq, exists_eq_left', ← having.eq_1, all.settle_having]
    cases extended : parentOf nodes with
    | none =>
      rw [settleEntry_rooted _ name nodes (.inl rfl)]
      simp [Except.map, eq_comm]
    | some parent =>
      -- The parent is the template itself, or it is missing.
      have mentioned := alone nodes read parent (mem_mentionsOf_of_parentOf extended)
      have parent_ : (library.having name ⟨⟨name, some parent, nodes, blocksOf nodes⟩, [], []⟩).find?
          parent = none ∨ ∃ entry,
            (library.having name ⟨⟨name, some parent, nodes, blocksOf nodes⟩, [], []⟩).find? parent =
              some entry ∧ entry.template = ⟨name, some parent, nodes, blocksOf nodes⟩ := by
        rw [find?_having]
        by_cases own : parent = name
        · exact .inr ⟨_, if_pos own, rfl⟩
        · rw [if_neg own]
          exact .inl (mentioned.resolve_left own)
      obtain ⟨failure, refused⟩ := settleEntry_error rfl parent_
      rw [refused]
      simp [Except.map]

/-- A library holds none but some templates, and these extend no other ones. -/
structure HoldsOnly (templates : List String) (library : Library) : Prop where
  allRooted : AllRooted library
  known : ∀ asked, asked ∉ templates → library.find? asked = none

/-- A library without templates holds none but any. -/
theorem holdsOnly_empty (templates : List String) : HoldsOnly templates empty :=
  ⟨allRooted_empty, fun _ _ => rfl⟩

/-- One of the templates can be added. -/
theorem HoldsOnly.having {templates : List String} {library : Library}
    (holds : HoldsOnly templates library) {name : String} (named : name ∈ templates)
    (nodes : List Node) : HoldsOnly templates (library.having name (rooted name nodes)) := by
  -- Only the name of the new template is known beyond those before.
  refine ⟨holds.allRooted.having name nodes, fun asked unknown => ?_⟩
  have apart : asked ≠ name := fun same => unknown (same ▸ named)
  rw [find?_having, if_neg apart, holds.known asked unknown]

end Library

/-! ### Templates that stand alone -/

/-- The templates that a text mentions. What is no template mentions none. -/
def mentionsOfText (text : String) : List String := ((nodesOfText? text).map mentionsOf).getD []

/-- A template that is read mentions what its nodes mention. -/
theorem mentionsOfText_eq {text : String} {nodes : List Node} (read : nodesOfText? text = some nodes) :
    mentionsOfText text = mentionsOf nodes := by
  rw [mentionsOfText, read]
  rfl

/-- What is mentioned is none of some templates, or it is the template itself, under each name that this is
given. -/
def StandsAlone (mentions names templates : List String) : Prop :=
  ∀ mentioned ∈ mentions, mentioned ∈ templates → ∀ name ∈ names, mentioned = name

/-- What mentions nothing stands alone. -/
theorem StandsAlone.nil (names templates : List String) : StandsAlone [] names templates :=
  fun _ member => nomatch member

/-- What stands alone under some names does so under each of them. -/
theorem StandsAlone.mono {mentions names fewer templates : List String}
    (alone : StandsAlone mentions names templates) (inside : ∀ name ∈ fewer, name ∈ names) :
    StandsAlone mentions fewer templates :=
  fun mentioned member loaded name own => alone mentioned member loaded name (inside name own)

/-- Names under which two libraries hold the same: those of one template in both, and each name that is
none of the given ones. -/
def SameUnder (name otherName : String) (templates : List String) (first second : String) : Prop :=
  (first = name ∧ second = otherName) ∨ (first = second ∧ first ∉ templates)

namespace StandsAlone

open Library

variable {library other : Library} {text : String} {names templates : List String}
  {name otherName : String}

/-- What a text that stands alone mentions is itself, or it is missing. -/
theorem own_or_missing (alone : StandsAlone (mentionsOfText text) names templates) (own : name ∈ names)
    (holds : HoldsOnly templates library) {nodes : List Node} (read : nodesOfText? text = some nodes)
    {mentioned : String} (member : mentioned ∈ mentionsOf nodes) :
    mentioned = name ∨ library.find? mentioned = none := by
  rw [mentionsOfText_eq read] at alone
  by_cases loaded : mentioned ∈ templates
  · exact .inl (alone mentioned member loaded name own)
  · exact .inr (holds.known mentioned loaded)

/-- Adding a text that stands alone succeeds when it is a template that extends none. -/
theorem add_eq_ok_iff (alone : StandsAlone (mentionsOfText text) names templates) (own : name ∈ names)
    (holds : HoldsOnly templates library) {source : String} {after : Library} :
    library.add name source text = (.ok (), after) ↔
      ∃ nodes, nodesOfText? text = some nodes ∧ parentOf nodes = none ∧
        after = library.having name (rooted name nodes) :=
  holds.allRooted.add_eq_ok_iff fun _ read _ member => alone.own_or_missing own holds read member

variable (alone : StandsAlone (mentionsOfText text) [name, otherName] templates) (named : name ∈ templates)
  (otherNamed : otherName ∈ templates) (filled : "" ∉ templates)
  (holds : HoldsOnly templates library) (otherHolds : HoldsOnly templates other)
include alone named otherNamed filled holds otherHolds

/-- Libraries with the same text that stands alone match, each under its own name. -/
theorem matches_having {nodes : List Node} (read : nodesOfText? text = some nodes) :
    Matches (SameUnder name otherName templates) (library.having name (rooted name nodes))
      (other.having otherName (rooted otherName nodes)) := by
  refine ⟨.inr ⟨rfl, filled⟩, ?_⟩
  rw [mentionsOfText_eq read] at alone
  rintro first second (⟨rfl, rfl⟩ | ⟨rfl, unknown⟩)
  · -- What the text mentions is itself under both names, or missing in both libraries.
    have mentions : ∀ mentioned ∈ mentionsOf nodes,
        SameUnder first second templates mentioned mentioned := by
      intro mentioned member
      by_cases loaded : mentioned ∈ templates
      · have own := alone mentioned member loaded
        exact .inl ⟨own first (by simp), own second (by simp)⟩
      · exact .inr ⟨rfl, loaded⟩
    refine .inr ⟨nodes, ?_, ?_, mentions⟩ <;> rw [find?_having, if_pos rfl]
  · exact .inl ⟨(holds.having named nodes).known first unknown,
      (otherHolds.having otherNamed nodes).known first unknown⟩

/-- Under two names, in two libraries, a text that stands alone is added and rendered alike. -/
theorem add_render_iff (source otherSource : String) (functions : Functions) (given : List (String × Json))
    (shown : String) :
    (∃ after, library.add name source text = (.ok (), after) ∧
        after.renderWith functions name given = .ok shown) ↔
      ∃ after, other.add otherName otherSource text = (.ok (), after) ∧
        after.renderWith functions otherName given = .ok shown := by
  -- Both libraries come to hold the nodes of the text, and what these render to depends on no name.
  have agree : ∀ nodes, nodesOfText? text = some nodes →
      ((library.having name (rooted name nodes)).renderWith functions name given = .ok shown ↔
        (other.having otherName (rooted otherName nodes)).renderWith functions otherName given =
          .ok shown) := by
    intro nodes read
    have libraries := matches_having alone named otherNamed filled holds otherHolds read
    exact (libraries.render_agree (.inl ⟨rfl, rfl⟩) functions given).eq_ok_iff shown
  simp only [alone.add_eq_ok_iff (by simp : name ∈ [name, otherName]) holds,
    alone.add_eq_ok_iff (by simp : otherName ∈ [name, otherName]) otherHolds]
  constructor
  · rintro ⟨_, ⟨nodes, read, extends_, rfl⟩, rendered⟩
    exact ⟨_, ⟨nodes, read, extends_, rfl⟩, (agree nodes read).mp rendered⟩
  · rintro ⟨_, ⟨nodes, read, extends_, rfl⟩, rendered⟩
    exact ⟨_, ⟨nodes, read, extends_, rfl⟩, (agree nodes read).mpr rendered⟩

end StandsAlone

/-! ### Plain templates -/

mutual

/-- A plain node mentions no template. -/
theorem Plain.mentions_node : (node : Plain) → node.node.mentions = []
  | .text _ => rfl
  | .put _ => rfl
  -- Only inner nodes could mention something, and they are plain as well.
  | .each _ _ body => by
    rw [Plain.node, Node.mentions, mentionsOf_nodesOf body, mentionsOf, List.append_nil]
  | .choose arms otherwise => by
    rw [Plain.node, Node.mentions, mentionsOfArms_armsOf arms, mentionsOf_nodesOf otherwise,
      List.append_nil]

/-- Plain nodes mention no template. -/
theorem mentionsOf_nodesOf : (nodes : List Plain) → mentionsOf (nodesOf nodes) = []
  | [] => rfl
  | node :: rest => by
    rw [nodesOf, mentionsOf, node.mentions_node, mentionsOf_nodesOf rest, List.append_nil]

/-- Plain arms mention no template. -/
theorem mentionsOfArms_armsOf : (arms : List (Way × List Plain)) → mentionsOfArms (armsOf arms) = []
  | [] => rfl
  | (_, body) :: rest => by
    rw [armsOf, mentionsOfArms, mentionsOf_nodesOf body, mentionsOfArms_armsOf rest, List.append_nil]

end

/-- A plain template mentions no other one. -/
theorem IsPlain.mentionsOfText_eq {nodes : List Plain} {text : String} (plain : IsPlain nodes text) :
    mentionsOfText text = [] := by
  have read : nodesOfText? text = some (nodesOf nodes) := by
    rw [nodesOfText?, plain.ofText?_eq, Option.map_some]
  rw [Template.mentionsOfText_eq read, mentionsOf_nodesOf]

end UdsCatalog.Template
