import Mathlib
import UdsCatalog.Proofs.Catalog.NameRegistry
import UdsCatalog.Proofs.Generation.Supply

/-!
Names of classes in generated code. The tag of a direction stands behind a free text without any mark
between them, but no tag is the end of another one, so a name tells both of its parts.
-/

namespace UdsCatalog

namespace Direction

/-- No tag is the end of another one. -/
theorem eq_of_tag_suffix {direction other : Direction} {more : String}
    (ends : other.tag = more ++ direction.tag) : more = "" ∧ other = direction := by
  -- Read from behind, two tags differ before the shorter one is over.
  have chars : other.tag.toList.reverse = direction.tag.toList.reverse ++ more.toList.reverse := by
    simpa using congrArg (fun text => text.toList.reverse) ends
  cases direction <;> cases other <;> simp [tag] at chars ⊢ <;> exact chars

/-- A text with a tag behind it tells the text and the direction. -/
theorem append_tag_inj {text otherText : String} {direction other : Direction} :
    text ++ direction.tag = otherText ++ other.tag ↔ text = otherText ∧ direction = other := by
  constructor
  · intro same
    -- One of the two texts ends first, and what is left of the other one must be nothing.
    rcases NameRegistry.append_eq_append_cases same with ⟨more, longer, ends⟩ | ⟨more, longer, ends⟩
    · obtain ⟨rfl, rfl⟩ := eq_of_tag_suffix ends
      exact ⟨by simpa using longer.symm, rfl⟩
    · obtain ⟨rfl, rfl⟩ := eq_of_tag_suffix ends
      exact ⟨by simpa using longer, rfl⟩
  · rintro ⟨rfl, rfl⟩
    rfl

end Direction

namespace LayoutClass

/-- A class with fields has a name, which ends with the tag of the first one. -/
theorem exists_qualifiedName {layout : LayoutClass} (filled : layout.items ≠ []) :
    ∃ first rest, layout.items = first :: rest ∧
      layout.qualifiedName? = some (layout.name ++ first.direction.tag) := by
  obtain ⟨first, rest, items⟩ := List.exists_cons_of_ne_nil filled
  exact ⟨first, rest, items, by simp [qualifiedName?, items]⟩

/-- The direction of the first field of a class. -/
def direction? (layout : LayoutClass) : Option Direction := layout.items.head?.map (·.direction)

/-- Two classes with fields that have one name agree in both of its parts. -/
theorem parts_of_qualifiedName_eq {layout other : LayoutClass} (filled : layout.items ≠ [])
    (otherFilled : other.items ≠ []) (same : layout.qualifiedName? = other.qualifiedName?) :
    layout.name = other.name ∧ layout.direction? = other.direction? := by
  obtain ⟨first, rest, items, named⟩ := exists_qualifiedName filled
  obtain ⟨otherFirst, otherRest, otherItems, otherNamed⟩ := exists_qualifiedName otherFilled
  rw [named, otherNamed, Option.some.injEq, Direction.append_tag_inj] at same
  obtain ⟨names, directions⟩ := same
  exact ⟨names, by simp [direction?, items, otherItems, directions]⟩

end LayoutClass

namespace Generation

open LayoutClass (collect)

/-- The classes that are declared for every catalog. -/
def fixedClassNames : List String := ["ServSub", "Serv"]

/-- A class with fields has another name than the classes that are always there. -/
theorem className_not_mem_fixed {layout : LayoutClass} (filled : layout.items ≠ []) :
    className layout ∉ fixedClassNames := by
  obtain ⟨first, rest, -, named⟩ := LayoutClass.exists_qualifiedName filled
  intro member
  -- The last letters of a tag are none of those that the fixed names end with.
  have ends : ∀ fixed ∈ fixedClassNames, ∀ direction : Direction,
      ¬ direction.tag.toList.reverse <+: fixed.toList.reverse := by
    intro fixed listed direction
    simp only [fixedClassNames, List.mem_cons, List.not_mem_nil, or_false] at listed
    rcases listed with rfl | rfl <;> cases direction <;> decide
  refine ends _ member first.direction ?_
  simp [className, named]

/-- The classes of every table that is collected have names. These differ from each other and from the
names of the classes that are always there, and two classes of one name would agree in the name of their
table and in the direction of their first field. Templates are shown these names. -/
theorem classNames_nodup {table : Record.Table Record.Layout} {classes : List LayoutClass}
    (collected : collect table = .ok classes) :
    ∃ names, classes.map LayoutClass.qualifiedName? = names.map some ∧
      (names ++ fixedClassNames).Nodup ∧
      (∀ layout ∈ classes, ∀ other ∈ classes, layout.qualifiedName? = other.qualifiedName? →
        layout.name = other.name ∧ layout.direction? = other.direction?) ∧
      ∀ services, ∃ given views, context ⟨services, classes⟩ = .ok given ∧
        given.lookup "req_resp_classes" = some (.array views) ∧
        views.map (·.get? "qualified_name") = names.map fun name => some (.text name) := by
  have filled := LayoutClass.items_ne_nil collected
  -- A qualified name can be taken apart again.
  have parts : ∀ layout ∈ classes, ∀ other ∈ classes, layout.qualifiedName? = other.qualifiedName? →
      layout.name = other.name ∧ layout.direction? = other.direction? :=
    fun layout member other among =>
      LayoutClass.parts_of_qualifiedName_eq (filled layout member) (filled other among)
  have named : ∀ layout ∈ classes, layout.qualifiedName? = some (className layout) := by
    intro layout member
    obtain ⟨first, rest, -, named⟩ := LayoutClass.exists_qualifiedName (filled layout member)
    simp [className, named]
  -- Each name of the table has one class, so classes that agree in it are the same.
  have distinct : (classes.map (·.name)).Nodup := by
    rw [LayoutClass.names_of_collect collected]
    exact LayoutClass.nodup_eraseDups _
  have injective : ∀ layout ∈ classes, ∀ other ∈ classes, className layout = className other →
      layout = other := by
    intro layout member other among same
    have agree := parts layout member other among (by rw [named layout member, named other among, same])
    exact List.inj_on_of_nodup_map distinct member among agree.1
  refine ⟨classes.map className, ?_, ?_, parts, fun services => ?_⟩
  · rw [List.map_map]
    exact List.map_congr_left named
  · refine List.nodup_append.mpr ⟨?_, by decide, ?_⟩
    · exact (List.nodup_map_iff_inj_on distinct.of_map).mpr injective
    -- The names that are always there end with no tag.
    · rintro name member other listed rfl
      obtain ⟨layout, among, rfl⟩ := List.mem_map.mp member
      exact className_not_mem_fixed (filled layout among) listed
  · refine ⟨values ⟨services, classes⟩, _, context_eq filled, rfl, ?_⟩
    rw [List.map_map, List.map_map]
    rfl

/-- A class without a name of its own, and one whose own name ends with a tag. -/
theorem classNames_nodup_ambiguous :
    let table : Record.Table Record.Layout := ⟨⟨"req_resp.json"⟩,
      [⟨"", "x", "PosResp", 1, "1", none⟩, ⟨"PosRespReq", "y", "Req", 1, "1", none⟩,
        ⟨"PosResp", "z", "Req", 1, "1", none⟩, ⟨"Pos", "z", "NegResp", 1, "1", none⟩]⟩
    let names := ["PosResp", "PosRespReqReq", "PosRespReq", "PosNegResp"]
    ∃ classes, collect table = .ok classes ∧
      classes.map LayoutClass.qualifiedName? = names.map some ∧ (names ++ fixedClassNames).Nodup := by
  intro table names
  obtain ⟨classes, collected, named⟩ : ∃ classes, collect table = .ok classes ∧
      classes.map LayoutClass.qualifiedName? = names.map some :=
    exists_eq_ok_of_any (by decide +kernel)
  obtain ⟨others, same, distinct, -⟩ := classNames_nodup collected
  -- The names that are told distinct are these, for each class has only one.
  obtain rfl : others = names := by
    rw [named] at same
    exact (List.map_injective_iff.mpr (Option.some_injective _) same).symm
  exact ⟨classes, collected, named, distinct⟩

end Generation

end UdsCatalog
