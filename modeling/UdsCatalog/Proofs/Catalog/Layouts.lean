import UdsCatalog.Catalog.Layout
import UdsCatalog.Proofs.Catalog.Reading

/-!
Layout classes are the records of their table, grouped by class name in order of first appearance.
-/

namespace UdsCatalog.LayoutClass

/-- A record with the field that it is read as. -/
abbrev Placed := Record.Layout × LayoutField

/-- The fields of a name among placed records, in order. -/
def fieldsOf (name : String) (placed : List Placed) : List LayoutField :=
  (placed.filter fun pair => pair.1.className == name).map (·.2)

/-- A class with the fields of its name behind its own. -/
def extend (placed : List Placed) (layout : LayoutClass) : LayoutClass :=
  { layout with items := layout.items ++ fieldsOf layout.name placed }

/-- The classes of placed records: one for each name, in order of first appearance. -/
def grouped (placed : List Placed) : List LayoutClass :=
  (placed.map (·.1.className)).eraseDups.map fun name => ⟨name, fieldsOf name placed⟩

/-- Places a field in the class of its name, or in a new class behind the others. -/
def placeOrOpen (name : String) (field : LayoutField) : List LayoutClass → List LayoutClass
  | [] => [⟨name, [field]⟩]
  | layout :: rest =>
    if layout.name == name then { layout with items := layout.items ++ [field] } :: rest
    else layout :: placeOrOpen name field rest

/-- Groups the records of a table in one pass, which opens a class when its name is first seen. -/
def groupAll (path : Files.Path) :
    List LayoutClass → List Record.Layout → Except Rejection (List LayoutClass)
  | classes, [] => .ok classes
  | classes, record :: rest =>
    match LayoutField.ofRecord path record with
    | .ok field => groupAll path (placeOrOpen record.className field classes) rest
    | .error rejection => .error rejection

/-- The first pass opens a class for each name that has none yet, in order of first appearance. -/
theorem classesOf_eq (classes : List LayoutClass) (records : List Record.Layout) :
    classesOf classes records = classes ++
      ((records.map (·.className)).filter fun name => !(classes.any (·.name == name))).eraseDups.map
        fun name => ⟨name, []⟩ := by
  -- A name that is opened at the head falls away from the names of the rest.
  induction records generalizing classes with
  | nil => simp [classesOf]
  | cons record rest ih =>
    rw [classesOf]
    by_cases known : classes.any (·.name == record.className) = true
    · rw [if_pos known, ih]
      simp [known]
    · rw [if_neg known, ih]
      simp only [Bool.not_eq_true] at known
      have order : ∀ name : String,
          ((!classes.any (·.name == name)) && !record.className == name) =
            ((!name == record.className) && !classes.any (·.name == name)) := by
        intro name
        rw [Bool.and_comm, BEq.comm]
      simp [known, List.eraseDups_cons, List.filter_filter, order]

/-- The second pass takes the field of each record into the class of its name. -/
theorem placeAll_takesIn (path : Files.Path) :
    TakesIn (LayoutField.ofRecord path)
      (fun classes record field => place record.className field classes) (placeAll path) where
  nil _ := rfl
  accepted read classes rest := by simp only [placeAll, read]
  rejected read classes rest := by simp only [placeAll, read]

/-- Grouping in one pass does so too, and opens the class first where there is none. -/
theorem groupAll_takesIn (path : Files.Path) :
    TakesIn (LayoutField.ofRecord path)
      (fun classes record field => placeOrOpen record.className field classes) (groupAll path) where
  nil _ := rfl
  accepted read classes rest := by simp only [groupAll, read]
  rejected read classes rest := by simp only [groupAll, read]

/-- The fields of a name begin with the field of a record that bears it. -/
theorem fieldsOf_cons (name : String) (pair : Placed) (rest : List Placed) :
    fieldsOf name (pair :: rest) =
      if pair.1.className == name then pair.2 :: fieldsOf name rest else fieldsOf name rest := by
  by_cases same : pair.1.className == name <;> simp [fieldsOf, same]

/-- Records of other names do not add to the fields of a name. -/
theorem fieldsOf_filter_ne {name other : String} (apart : name ≠ other) (placed : List Placed) :
    fieldsOf name (placed.filter fun pair => !pair.1.className == other) =
      fieldsOf name placed := by
  -- The records of the name pass both filters, and all others fail at least one of them.
  rw [fieldsOf, fieldsOf, List.filter_filter]
  refine congrArg (List.map _) (List.filter_congr fun pair _ => ?_)
  by_cases same : pair.1.className = name
  · simp [same, apart]
  · simp [same]

/-- Placing changes the one class of the name when names are pairwise distinct. -/
theorem place_eq {classes : List LayoutClass} (distinct : (classes.map (·.name)).Nodup)
    (pair : Placed) :
    place pair.1.className pair.2 classes = classes.map (extend [pair]) := by
  -- Behind the first class of the name no other one has it, so the rest stays as it is.
  induction classes with
  | nil => rfl
  | cons layout rest ih =>
    rw [List.map_cons, List.nodup_cons] at distinct
    obtain ⟨absent, distinct⟩ := distinct
    rw [place, List.map_cons]
    by_cases same : layout.name = pair.1.className
    · have others : ∀ other ∈ rest, extend [pair] other = other := by
        intro other member
        have apart : pair.1.className ≠ other.name := fun equal =>
          absent (List.mem_map.mpr ⟨other, member, by rw [same, equal]⟩)
        simp [extend, fieldsOf, apart]
      rw [List.map_congr_left others]
      simp [extend, fieldsOf, same]
    · simp [extend, fieldsOf, same, Ne.symm same, ih distinct]

/-- Without records nothing is extended. -/
theorem extend_nil : extend [] = id := by
  funext layout
  simp [extend, fieldsOf]

/-- Extending a class twice is extending it with both lists of records. -/
theorem extend_extend (first second : List Placed) (layout : LayoutClass) :
    extend second (extend first layout) = extend (first ++ second) layout := by
  simp [extend, fieldsOf, List.append_assoc]

/-- Placing all fields extends every class when names are pairwise distinct. -/
theorem foldl_place_eq {classes : List LayoutClass} (distinct : (classes.map (·.name)).Nodup)
    (placed : List Placed) :
    placed.foldl (fun classes pair => place pair.1.className pair.2 classes) classes =
      classes.map (extend placed) := by
  -- Extending keeps the names, so they stay distinct after every field.
  induction placed generalizing classes with
  | nil => simp [extend_nil]
  | cons pair rest ih =>
    have names : ((classes.map (extend [pair])).map (·.name)) = classes.map (·.name) := by
      simp [extend]
    rw [List.foldl_cons, place_eq distinct, ih (by rw [names]; exact distinct), List.map_map]
    exact List.map_congr_left fun layout _ => extend_extend [pair] rest layout

/-- Placing in one pass is placing in the class of the name when there is one. -/
theorem placeOrOpen_of_known {classes : List LayoutClass} {name : String} (field : LayoutField)
    (known : classes.any (·.name == name) = true) :
    placeOrOpen name field classes = place name field classes := by
  -- The class of the name comes before the end, where a new one would be opened.
  induction classes with
  | nil => simp at known
  | cons layout rest ih =>
    by_cases same : layout.name = name
    · simp [placeOrOpen, place, same]
    · have known : rest.any (·.name == name) = true := by simpa [same] using known
      simp [placeOrOpen, place, same, ih known]

/-- For a name without a class a new one is opened behind the others. -/
theorem placeOrOpen_of_unknown {classes : List LayoutClass} {name : String} (field : LayoutField)
    (unknown : classes.any (·.name == name) = false) :
    placeOrOpen name field classes = classes ++ [⟨name, [field]⟩] := by
  -- No class on the way has the name, so the walk comes to the end.
  induction classes with
  | nil => rfl
  | cons layout rest ih =>
    rw [List.any_cons, Bool.or_eq_false_iff] at unknown
    obtain ⟨apart, unknown⟩ := unknown
    simp [placeOrOpen, apart, ih unknown]

/-- The first class is that of the first record; the others are those of the records of other
names. -/
theorem grouped_cons (pair : Placed) (rest : List Placed) :
    grouped (pair :: rest) =
      ⟨pair.1.className, pair.2 :: fieldsOf pair.1.className rest⟩ ::
        grouped (rest.filter fun other => !other.1.className == pair.1.className) := by
  -- The first name stays, and its repeats fall away together with their records.
  have names : (rest.map (·.1.className)).filter (fun name => !name == pair.1.className) =
      (rest.filter fun other => !other.1.className == pair.1.className).map (·.1.className) := by
    rw [List.filter_map]
    rfl
  rw [grouped, List.map_cons, List.eraseDups_cons, names, List.map_cons, fieldsOf_cons]
  refine congrArg₂ List.cons (by simp) (List.map_congr_left fun name member => ?_)
  -- A name among the remaining records differs from that of the first.
  have apart : name ≠ pair.1.className := by
    rw [List.mem_eraseDups, ← names] at member
    simpa using (List.mem_filter.mp member).2
  rw [fieldsOf_filter_ne apart, fieldsOf_cons]
  simp [Ne.symm apart]

/-- Grouping in one pass extends the classes that are there and groups the other records behind
them. -/
theorem foldl_placeOrOpen_eq {classes : List LayoutClass} (distinct : (classes.map (·.name)).Nodup)
    (placed : List Placed) :
    placed.foldl (fun classes pair => placeOrOpen pair.1.className pair.2 classes) classes =
      classes.map (extend placed) ++
        grouped (placed.filter fun pair => !classes.any (·.name == pair.1.className)) := by
  -- Each record either meets a class of its name or opens one, and the others go on from there.
  induction placed generalizing classes with
  | nil => simp [extend_nil, grouped]
  | cons pair rest ih =>
    rw [List.foldl_cons]
    cases known : classes.any (·.name == pair.1.className) with
    | true =>
      -- The names of the classes stay, so the same records are left to be grouped.
      have names : ((classes.map (extend [pair])).map (·.name)) = classes.map (·.name) := by
        simp [extend]
      have same : ∀ name : String,
          (classes.map (extend [pair])).any (·.name == name) = classes.any (·.name == name) := by
        intro name
        simp [List.any_map, Function.comp_def, extend]
      rw [placeOrOpen_of_known _ known, place_eq distinct, ih (by rw [names]; exact distinct),
        List.map_map, List.filter_cons_of_neg (by simp [known])]
      simp only [same]
      exact congrArg (· ++ _) (List.map_congr_left fun layout _ => extend_extend [pair] rest layout)
    | false =>
      -- The new class gathers all records of its name, so they fall away from those that are left.
      have absent : pair.1.className ∉ classes.map (·.name) := by
        intro member
        obtain ⟨layout, member, name⟩ := List.mem_map.mp member
        have found : classes.any (·.name == pair.1.className) = true :=
          List.any_eq_true.mpr ⟨layout, member, by simp [name]⟩
        rw [known] at found
        cases found
      have opened : ((classes ++ [(⟨pair.1.className, [pair.2]⟩ : LayoutClass)]).map
          (·.name)).Nodup := by
        rw [List.map_append]
        exact List.nodup_append.mpr ⟨distinct, List.nodup_singleton _, by
          intro name member other rest
          rw [List.mem_singleton.mp rest]
          rintro rfl
          exact absent member⟩
      -- The record has another name than these classes, so they gather nothing from it.
      have untouched : ∀ layout ∈ classes, extend rest layout = extend (pair :: rest) layout := by
        intro layout member
        have apart : pair.1.className ≠ layout.name := fun equal =>
          absent (List.mem_map.mpr ⟨layout, member, equal.symm⟩)
        simp [extend, fieldsOf_cons, apart]
      have gathered : fieldsOf pair.1.className
          (rest.filter fun other => !classes.any (·.name == other.1.className)) =
            fieldsOf pair.1.className rest := by
        rw [fieldsOf, fieldsOf, List.filter_filter]
        refine congrArg (List.map _) (List.filter_congr fun other _ => ?_)
        by_cases same : other.1.className = pair.1.className
        · simp [same, known]
        · simp [same]
      rw [placeOrOpen_of_unknown _ known, ih opened, List.filter_cons_of_pos (by simp [known]),
        grouped_cons, gathered, List.filter_filter, List.map_append,
        List.map_congr_left untouched, List.append_assoc]
      simp only [List.map_cons, List.map_nil, List.any_append, List.any_cons, List.any_nil,
        Bool.or_false, Bool.not_or, extend, List.singleton_append]
      refine congrArg (_ ++ ⟨_, _⟩ :: grouped ·) (List.filter_congr fun other _ => ?_)
      rw [Bool.and_comm, BEq.comm]

/-- The first appearances in a list are pairwise distinct. -/
theorem nodup_eraseDups : (names : List String) → names.eraseDups.Nodup
  | [] => List.nodup_nil
  | name :: rest => by
    -- The first name is filtered out of the rest before the rest is gone through.
    rw [List.eraseDups_cons, List.nodup_cons]
    constructor
    · rw [List.mem_eraseDups]
      simp
    · exact nodup_eraseDups (rest.filter fun other => !other == name)
termination_by names => names.length
decreasing_by exact Nat.lt_succ_of_le (List.length_filter_le _ _)

/-- Fields beside their records leave the class names as they are. -/
theorem classNames_zip {records : List Record.Layout} {fields : List LayoutField}
    (lengths : records.length = fields.length) :
    (records.zip fields).map (·.1.className) = records.map (·.className) := by
  rw [← Function.comp_def Record.Layout.className Prod.fst, ← List.map_map,
    List.map_fst_zip lengths.le]

/-- The two passes over a table are reading all records and grouping them. -/
theorem collect_eq (table : Record.Table Record.Layout) :
    collect table = (table.records.mapM (LayoutField.ofRecord table.path)).map fun fields =>
      grouped (table.records.zip fields) := by
  -- All classes are open before the first field is placed, so none is dropped.
  rw [collect, (placeAll_takesIn table.path).eq_foldl_zip, classesOf_eq]
  cases read : table.records.mapM (LayoutField.ofRecord table.path) with
  | error rejection => rfl
  | ok fields =>
    have lengths : table.records.length = fields.length := (mapM_eq_ok_iff.mp read).length_eq
    have distinct : ((table.records.map (·.className)).eraseDups.map
        fun name => (⟨name, []⟩ : LayoutClass)).map (·.name) =
          (table.records.map (·.className)).eraseDups := by
      simp [List.map_map, Function.comp_def]
    simp only [Except.map, List.any_nil, Bool.not_false, List.filter_true, List.nil_append]
    rw [foldl_place_eq (by rw [distinct]; exact nodup_eraseDups _), grouped, classNames_zip lengths,
      List.map_map]
    rfl

/-- Grouping in one pass from the start reads all records and groups them as well. -/
theorem groupAll_nil_eq (path : Files.Path) (records : List Record.Layout) :
    groupAll path [] records = (records.mapM (LayoutField.ofRecord path)).map fun fields =>
      grouped (records.zip fields) := by
  -- Without classes at the start all records are left to be grouped.
  rw [(groupAll_takesIn path).eq_foldl_zip]
  refine congrArg (Except.map · _) (funext fun fields => ?_)
  rw [@foldl_placeOrOpen_eq [] List.nodup_nil]
  simp

/-- No field is lost and none is placed twice. -/
theorem grouped_perm : (placed : List Placed) →
    ((grouped placed).flatMap (·.items)).Perm (placed.map (·.2))
  | [] => .refl _
  | pair :: rest => by
    -- The first class takes the records of its name, the other classes divide those that are left.
    rw [grouped_cons, List.flatMap_cons, List.map_cons, List.cons_append]
    have others := grouped_perm (rest.filter fun other => !other.1.className == pair.1.className)
    have split := (List.filter_append_perm (fun other => other.1.className == pair.1.className)
      rest).map (·.2)
    rw [List.map_append] at split
    exact ((others.append_left _).trans split).cons _
termination_by placed => placed.length
decreasing_by exact Nat.lt_succ_of_le (List.length_filter_le _ _)

/-- The fields of a name are read from the records of the name, in order. -/
theorem readsEach_fieldsOf {path : Files.Path} {records : List Record.Layout}
    {fields : List LayoutField} (each : ReadsEach (LayoutField.ofRecord path) records fields)
    (name : String) :
    ReadsEach (LayoutField.ofRecord path) (records.filter (·.className == name))
      (fieldsOf name (records.zip fields)) := by
  -- Filtering keeps a record and its field together.
  induction each with
  | nil => exact .nil
  | @cons record field rest others accepted _ ih =>
    rw [List.zip_cons_cons, fieldsOf_cons]
    by_cases same : (record.className == name) = true
    · simp only [List.filter_cons, same, if_true]
      exact .cons accepted ih
    · simp only [List.filter_cons, same, Bool.false_eq_true, if_false]
      exact ih

/-- A class is there because a record has its name, so it has a field. -/
theorem grouped_items_ne_nil {placed : List Placed} {layout : LayoutClass}
    (member : layout ∈ grouped placed) : layout.items ≠ [] := by
  obtain ⟨name, listed, rfl⟩ := List.mem_map.mp member
  obtain ⟨pair, found, rfl⟩ := List.mem_map.mp (List.mem_eraseDups.mp listed)
  have field : pair.2 ∈ fieldsOf pair.1.className placed :=
    List.mem_map.mpr ⟨pair, List.mem_filter.mpr ⟨found, by simp⟩, rfl⟩
  exact List.ne_nil_of_mem field

/-- Classes that are built are not empty. -/
theorem items_ne_nil {table : Record.Table Record.Layout} {classes : List LayoutClass}
    (success : collect table = .ok classes) : ∀ layout ∈ classes, layout.items ≠ [] := by
  -- Every class stands for a name of some record.
  rw [collect_eq, map_mapM_eq_ok_iff] at success
  obtain ⟨fields, -, rfl⟩ := success
  exact fun _ => grouped_items_ne_nil

/-- Classes that are built have the names of the records, in order of first appearance. -/
theorem names_of_collect {table : Record.Table Record.Layout} {classes : List LayoutClass}
    (success : collect table = .ok classes) :
    classes.map (·.name) = (table.records.map (·.className)).eraseDups := by
  rw [collect_eq, map_mapM_eq_ok_iff] at success
  obtain ⟨fields, each, rfl⟩ := success
  simp [grouped, List.map_map, Function.comp_def, classNames_zip each.length_eq]

/-- The classes of a table exist when each record is read; they group the records by name, stably
and without loss, as one pass over the table does. -/
theorem collect_groups_records (table : Record.Table Record.Layout) :
    ((∃ classes, collect table = .ok classes) ↔
        ∀ record ∈ table.records, ∃ field, LayoutField.ofRecord table.path record = .ok field) ∧
      collect table = groupAll table.path [] table.records ∧
      ∀ classes, collect table = .ok classes →
        classes.map (·.name) = (table.records.map (·.className)).eraseDups ∧
        (classes.map (·.name)).Nodup ∧
        (∀ layout ∈ classes, layout.items ≠ [] ∧
          ReadsEach (LayoutField.ofRecord table.path)
            (table.records.filter (·.className == layout.name)) layout.items) ∧
        (classes.map (·.items.length)).sum = table.records.length ∧
        ∃ fields, ReadsEach (LayoutField.ofRecord table.path) table.records fields ∧
          (classes.flatMap (·.items)).Perm fields := by
  refine ⟨?_, ?_, fun classes success => ?_⟩
  -- Grouping cannot fail, so the outcome is that of the reading.
  · simp only [collect_eq]
    exact exists_map_mapM_eq_ok_iff
  · rw [collect_eq, groupAll_nil_eq]
  · -- What comes out are the groups of the fields beside their records.
    have filled := items_ne_nil success
    rw [collect_eq, map_mapM_eq_ok_iff] at success
    obtain ⟨fields, each, rfl⟩ := success
    have placedFields : (table.records.zip fields).map (·.2) = fields :=
      List.map_snd_zip each.length_eq.ge
    have names : (grouped (table.records.zip fields)).map (·.name) =
        (table.records.map (·.className)).eraseDups := by
      simp [grouped, List.map_map, Function.comp_def, classNames_zip each.length_eq]
    have perm := grouped_perm (table.records.zip fields)
    rw [placedFields] at perm
    refine ⟨names, names ▸ nodup_eraseDups _, fun layout member => ⟨filled layout member, ?_⟩, ?_,
      fields, each, perm⟩
    · obtain ⟨name, -, rfl⟩ := List.mem_map.mp member
      exact readsEach_fieldsOf each name
    -- Groups only reorder the fields, and each record has one.
    · rw [each.length_eq, ← perm.length_eq, List.length_flatMap]

/-- The second `a` stands behind `b` in the table, and its field joins that of the first one. -/
theorem collect_groups_records_interleaved :
    let table : Record.Table Record.Layout := ⟨⟨"req_resp.json"⟩,
      [⟨"a", "x", "Req", 1, "1", none⟩, ⟨"b", "y", "Req", 1, "", none⟩,
        ⟨"a", "z", "PosResp", 2, "4", none⟩]⟩
    ∃ classes, collect table = .ok classes ∧ classes.map (·.name) = ["a", "b"] ∧
      (classes.map (·.items.length)).sum = 3 := by
  intro table
  obtain ⟨exists_iff, -, grouping⟩ := collect_groups_records table
  -- All three records are within bounds.
  obtain ⟨classes, collected⟩ := exists_iff.mpr (by
    intro record member
    simp only [table, List.mem_cons, List.not_mem_nil, or_false] at member
    rcases member with rfl | rfl | rfl <;> exact ⟨_, rfl⟩)
  obtain ⟨names, -, -, count, -⟩ := grouping classes collected
  exact ⟨classes, collected, names.trans (by decide), count⟩

end UdsCatalog.LayoutClass
