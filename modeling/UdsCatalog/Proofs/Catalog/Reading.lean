import Mathlib

/-! Tables are read record by record, and the first record that is rejected decides. -/

namespace UdsCatalog

variable {ρ α ε : Type}

/-- Each record is read as its item. -/
abbrev ReadsEach (read : ρ → Except ε α) : List ρ → List α → Prop :=
  List.Forall₂ fun record item => read record = .ok item

variable {read : ρ → Except ε α}

/-- All records together are read as some items when each record is read as its item. -/
theorem mapM_eq_ok_iff {records : List ρ} {items : List α} :
    records.mapM read = .ok items ↔ ReadsEach read records items := by
  -- The head is read before the rest, and either of them can end the whole.
  induction records generalizing items with
  | nil => simp [Pure.pure, Except.pure, eq_comm]
  | cons record rest ih =>
    rw [List.mapM_cons, ReadsEach, List.forall₂_cons_left_iff]
    cases head : read record with
    | error rejection => simp [Bind.bind, Except.bind]
    | ok item =>
      cases tail : rest.mapM read with
      | error rejection =>
        -- The rest has no items at all, so the whole has none either.
        have none : ∀ others, ¬ ReadsEach read rest others := by
          intro others all
          rw [← ih, tail] at all
          cases all
        simp [none, Bind.bind, Except.bind]
      | ok others =>
        -- The rest has exactly these items, which fixes those of the whole.
        have only : ∀ items, ReadsEach read rest items ↔ others = items := by
          intro items
          rw [← ih, tail, Except.ok.injEq]
        simp [only, Bind.bind, Except.bind, Pure.pure, Except.pure, eq_comm]

/-- All records together can be read exactly when each of them can. -/
theorem exists_mapM_eq_ok_iff {records : List ρ} :
    (∃ items, records.mapM read = .ok items) ↔
      ∀ record ∈ records, ∃ item, read record = .ok item := by
  -- The first record that is rejected ends the reading, and all others are not asked.
  induction records with
  | nil => simp [Pure.pure, Except.pure]
  | cons record rest ih =>
    rw [List.forall_mem_cons, ← ih, List.mapM_cons]
    cases head : read record with
    | error rejection => simp [Bind.bind, Except.bind]
    | ok item =>
      cases tail : rest.mapM read with
      | error rejection => simp [Bind.bind, Except.bind]
      | ok others => simp [Bind.bind, Except.bind, Pure.pure, Except.pure]

/-- What is made of all items is there when each record is read as its item. -/
theorem map_mapM_eq_ok_iff {β : Type} {records : List ρ} {make : List α → β} {made : β} :
    (records.mapM read).map make = .ok made ↔
      ∃ items, ReadsEach read records items ∧ make items = made := by
  -- What is made of the items can fail only where the reading fails.
  constructor
  · intro success
    cases all : records.mapM read with
    | error rejection => simp [all, Except.map] at success
    | ok items =>
      rw [all, Except.map, Except.ok.injEq] at success
      exact ⟨items, mapM_eq_ok_iff.mp all, success⟩
  · rintro ⟨items, each, rfl⟩
    rw [mapM_eq_ok_iff.mpr each, Except.map]

/-- Something is made of all items exactly when each record can be read. -/
theorem exists_map_mapM_eq_ok_iff {β : Type} {records : List ρ} {make : List α → β} :
    (∃ made, (records.mapM read).map make = .ok made) ↔
      ∀ record ∈ records, ∃ item, read record = .ok item := by
  -- What is made of the items has no say in whether they are all there.
  simp only [map_mapM_eq_ok_iff, ← exists_mapM_eq_ok_iff, mapM_eq_ok_iff]
  constructor
  · rintro ⟨_, items, each, -⟩
    exact ⟨items, each⟩
  · rintro ⟨items, each⟩
    exact ⟨make items, items, each, rfl⟩

/-- Reading the same from each record is reading the same from all of them. -/
theorem mapM_congr {other : ρ → Except ε α} {records : List ρ}
    (same : ∀ record ∈ records, read record = other record) :
    records.mapM read = records.mapM other := by
  -- Both readings go through the records in the same order.
  induction records with
  | nil => rfl
  | cons record rest ih =>
    obtain ⟨head, tail⟩ := List.forall_mem_cons.mp same
    rw [List.mapM_cons, List.mapM_cons, head, ih tail]

/-- What every item takes over from its record stands in the order of the records. -/
theorem ReadsEach.map_eq {β : Type} {ofItem : α → β} {ofRecord : ρ → β} {records : List ρ}
    {items : List α} (each : ReadsEach read records items)
    (kept : ∀ record item, read record = .ok item → ofItem item = ofRecord record) :
    items.map ofItem = records.map ofRecord := by
  induction each with
  | nil => rfl
  | cons accepted _ ih => simp [kept _ _ accepted, ih]

/-- What can be decided of a result holds of one that is there. -/
theorem exists_eq_ok_of_any {holds : α → Prop} [DecidablePred holds] {result : Except ε α}
    (computed : result.toOption.any (fun made => decide (holds made)) = true) :
    ∃ made, result = .ok made ∧ holds made := by
  cases result with
  | error rejection => cases computed
  | ok made => exact ⟨made, rfl, of_decide_eq_true computed⟩

/-- Every item of a row stands beside some record. -/
theorem exists_of_forall₂ {relation : ρ → α → Prop} {records : List ρ} {items : List α}
    (each : List.Forall₂ relation records items) {item : α} (member : item ∈ items) :
    ∃ record ∈ records, relation record item := by
  -- An item stands beside the record at the same position.
  induction each with
  | nil => cases member
  | @cons record first _ _ related _ ih =>
    rcases List.mem_cons.mp member with rfl | later
    · exact ⟨record, by simp, related⟩
    · obtain ⟨other, among, found⟩ := ih later
      exact ⟨other, by simp [among], found⟩

/-- What says the same of a record and of its item holds of all records exactly when it holds of all
items. -/
theorem forall_mem_iff_of_forall₂ {relation : ρ → α → Prop} {ofRecord : ρ → Prop} {ofItem : α → Prop}
    (same : ∀ record item, relation record item → (ofRecord record ↔ ofItem item))
    {records : List ρ} {items : List α} (each : List.Forall₂ relation records items) :
    (∀ record ∈ records, ofRecord record) ↔ ∀ item ∈ items, ofItem item := by
  induction each with
  | nil => simp
  | cons related _ ih => rw [List.forall_mem_cons, List.forall_mem_cons, same _ _ related, ih]

/-- Two relations one behind the other relate the ends through the items between them. -/
theorem forall₂_comp {β : Type} {first : ρ → α → Prop} {second : α → β → Prop} {records : List ρ}
    {items : List α} {parts : List β} (each : List.Forall₂ first records items)
    (later : List.Forall₂ second items parts) :
    List.Forall₂ (fun record part => ∃ item, first record item ∧ second item part) records parts := by
  -- Both relations are walked along together, and the item in the middle is forgotten.
  induction each generalizing parts with
  | nil =>
    cases later
    exact .nil
  | cons related _ ih =>
    cases later with
    | cons relatedLater later => exact .cons ⟨_, related, relatedLater⟩ (ih later)

/-- Items that are changed one by one stay with their records if each change keeps the relation. -/
theorem forall₂_zipWith {β γ : Type} {before : ρ → α → Prop} {after : ρ → γ → Prop}
    {change : α → β → γ}
    (keeps : ∀ record item part, before record item → after record (change item part))
    {records : List ρ} {items : List α} {parts : List β} (each : List.Forall₂ before records items)
    (lengths : parts.length = items.length) :
    List.Forall₂ after records (List.zipWith change items parts) := by
  -- Parts and items are as many, so every related pair meets the part at its place.
  induction each generalizing parts with
  | nil => simp
  | cons related _ ih =>
    cases parts with
    | nil => simp at lengths
    | cons part parts =>
      exact .cons (keeps _ _ _ related) (ih (by simpa using lengths))

/-- A run over records takes each item in as it is read, and ends at the first rejected record. -/
structure TakesIn {κ : Type} (read : ρ → Except ε α) (step : κ → ρ → α → κ)
    (run : κ → List ρ → Except ε κ) : Prop where
  nil : ∀ state, run state [] = .ok state
  accepted : ∀ {record item}, read record = .ok item →
    ∀ state rest, run state (record :: rest) = run (step state record item) rest
  rejected : ∀ {record rejection}, read record = .error rejection →
    ∀ state rest, run state (record :: rest) = .error rejection

namespace TakesIn

variable {κ : Type} {run : κ → List ρ → Except ε κ}

/-- Taking items in one after the other is reading all records and then taking in all items. -/
theorem eq_foldl_zip {step : κ → ρ → α → κ} (takes : TakesIn read step run) (state : κ)
    (records : List ρ) :
    run state records = (records.mapM read).map fun items =>
      (records.zip items).foldl (fun state pair => step state pair.1 pair.2) state := by
  -- The state moves on with every record, so it stays quantified over.
  induction records generalizing state with
  | nil => exact takes.nil state
  | cons record rest ih =>
    rw [List.mapM_cons]
    cases head : read record with
    | error rejection => exact takes.rejected head state rest
    | ok item =>
      rw [takes.accepted head, ih]
      cases rest.mapM read <;> rfl

/-- When the records themselves are not needed any more, only the items are taken in. -/
theorem eq_foldl {step : κ → α → κ} (takes : TakesIn read (fun state _ item => step state item) run)
    (state : κ) (records : List ρ) :
    run state records = (records.mapM read).map fun items => items.foldl step state := by
  rw [takes.eq_foldl_zip]
  cases all : records.mapM read with
  | error rejection => rfl
  | ok items =>
    -- There is an item for each record, so the second parts of the pairs are all items.
    have lengths : records.length = items.length := (mapM_eq_ok_iff.mp all).length_eq
    rw [Except.map, Except.map, ← List.foldl_map (f := Prod.snd) (g := step),
      List.map_snd_zip lengths.ge]

end TakesIn

/-- The rejection that a result is, if it is one. -/
@[simp] def rejection? : Except ε α → Option ε
  | .ok _ => none
  | .error rejection => some rejection

/-- A result is a rejection when it is nothing else. -/
theorem rejection?_eq_some_iff {result : Except ε α} {rejection : ε} :
    rejection? result = some rejection ↔ result = .error rejection := by
  cases result <;> simp [rejection?]

/-- The first find in several lists is the first find of the first list that has one. -/
theorem findSome?_flatMap {β γ : Type} (find : β → Option γ) (parts : ρ → List β) (records : List ρ) :
    (records.flatMap parts).findSome? find =
      records.findSome? fun record => (parts record).findSome? find := by
  induction records with
  | nil => rfl
  | cons record rest ih =>
    rw [List.flatMap_cons, List.findSome?_append, ih, List.findSome?_cons]
    cases (parts record).findSome? find <;> rfl

/-- A run is rejected as the first record is that is rejected. -/
theorem TakesIn.rejection?_run {κ : Type} {step : κ → ρ → α → κ} {run : κ → List ρ → Except ε κ}
    (takes : TakesIn read step run) (state : κ) (records : List ρ) :
    rejection? (run state records) = records.findSome? fun record => rejection? (read record) := by
  -- An accepted record only changes the state, which no rejection depends on.
  induction records generalizing state with
  | nil => rw [takes.nil, List.findSome?_nil, rejection?]
  | cons record rest ih =>
    rw [List.findSome?_cons]
    cases head : read record with
    | ok item => rw [takes.accepted head, ih, rejection?]
    | error rejection => rw [takes.rejected head, rejection?, rejection?]

end UdsCatalog
