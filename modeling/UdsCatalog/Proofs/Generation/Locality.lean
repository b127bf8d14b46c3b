import Mathlib
import UdsCatalog.Generation.Output
import UdsCatalog.Proofs.Template.StandAlone

/-!
Local engines. In a local engine a template that mentions no other one renders the same under every name and
beside whichever other templates. Libraries of templates are such an engine, at all moments.
-/

namespace UdsCatalog.Generation.Engine

open Template (StandsAlone)

/-- A library of an engine came about by adding templates under some names. Each of them mentions none of these
names but its own. -/
inductive Holds (engine : Engine) (mentions : String → List String) (templates : List String) :
    engine.Library → Prop
  | empty : Holds engine mentions templates engine.empty
  | add {library next : engine.Library} {name source text : String}
      (holds : Holds engine mentions templates library) (named : name ∈ templates)
      (alone : StandsAlone (mentions text) [name] templates)
      (added : engine.add library name source text = (.ok (), next)) :
      Holds engine mentions templates next

/-- In a local engine a text is added and rendered alike under two names, in two libraries, when it mentions
none of the templates there but itself. Names count that end as those of templates, since an engine may tell
from the end of a name what kind of text the template gives. -/
def IsLocal (engine : Engine) (mentions : String → List String) : Prop :=
  ∀ (templates : List String) (library other : engine.Library) (name otherName text : String),
    (∀ known ∈ templates, templateSuffix.toList <:+ known.toList) →
    engine.Holds mentions templates library → engine.Holds mentions templates other →
    name ∈ templates → otherName ∈ templates →
    StandsAlone (mentions text) [name, otherName] templates →
    ∀ (moment : engine.Moment) (source otherSource : String) (given : List (String × Json)) (shown : String),
      (∃ after, engine.add library name source text = (.ok (), after) ∧
          engine.render after moment name given = .ok shown) ↔
        ∃ after, engine.add other otherName otherSource text = (.ok (), after) ∧
          engine.render after moment otherName given = .ok shown

/-- A library that came about by adding templates holds none but these, and they extend no other ones. -/
theorem Holds.holdsOnly {templates : List String} {library : standard.Library}
    (holds : standard.Holds Template.mentionsOfText templates library) :
    Template.Library.HoldsOnly templates library := by
  -- The templates were added one after the other, each to those before it.
  induction holds with
  | empty => exact Template.Library.holdsOnly_empty templates
  | add _ named alone added ih =>
    obtain ⟨nodes, -, -, rfl⟩ := (alone.add_eq_ok_iff (List.mem_singleton_self _) ih).mp added
    exact ih.having named nodes

/-- Libraries of templates are local, whatever the functions are that a moment brings along. -/
theorem isLocal_standard : standard.IsLocal Template.mentionsOfText := by
  intro templates library other name otherName text ends holds otherHolds named otherNamed alone functions
    source otherSource given shown
  -- The empty name ends in nothing.
  have filled : "" ∉ templates := by
    intro member
    have empty := List.suffix_nil.mp (ends "" member)
    exact absurd empty (by decide)
  exact alone.add_render_iff named otherNamed filled holds.holdsOnly otherHolds.holdsOnly source otherSource
    functions given shown

end UdsCatalog.Generation.Engine
