import UdsCatalog.Proofs.Catalog.Services
import UdsCatalog.Proofs.Numeral.Grammar

/-!
Values of sub-functions. A record is accepted exactly when the parts of its values are numerals in order
that fit a byte, wherever blanks stand between their characters.
-/

namespace UdsCatalog.SubFunction

open Numeral (IsHexNumeral)

/-- The separator of the two ends of a range. -/
def separator : List Char := ['t', 'o']

/-- Characters without the blanks among them. -/
def withoutBlanks (chars : List Char) : List Char := chars.filter (!Text.isBlank ·)

/-- The parts of values: what stands in front of the first separator and behind it, or without one twice
the whole, all without blanks. -/
inductive Parts : List Char → List Char → List Char → Prop where
  /-- No separator begins in front of the one that splits the values. -/
  | range {before behind : List Char} (first : ¬ separator <:+: before ++ ['t']) :
    Parts (before ++ (separator ++ behind)) (withoutBlanks before) (withoutBlanks behind)
  | single {values : List Char} (none : ¬ separator <:+: values) :
    Parts values (withoutBlanks values) (withoutBlanks values)

/-- The place between two pieces of values is the middle of their first separator. -/
def SplitsFirst (front back : List Char) : Prop :=
  front.getLast? = some 't' ∧ back.head? = some 'o' ∧ ¬ separator <:+: front

/-- One blank is put into values, at any place but the middle of their first separator. -/
inductive InsertsBlank : List Char → List Char → Prop where
  | mk {front back : List Char} {blank : Char} (isBlank : Text.isBlank blank = true)
    (outside : ¬ SplitsFirst front back) : InsertsBlank (front ++ back) (front ++ blank :: back)

/-- A character that does not begin a separator has none of it. -/
theorem separator_infix_cons_iff {c : Char} {rest : List Char}
    (other : ∀ behind, c = 't' → rest ≠ 'o' :: behind) :
    separator <:+: c :: rest ↔ separator <:+: rest := by
  -- A separator that began at the first character would show its second letter right behind.
  rw [List.infix_cons_iff]
  constructor
  · rintro (⟨behind, whole⟩ | inside)
    · obtain ⟨rfl, second⟩ := List.cons.inj whole.symm
      exact absurd second (other behind rfl)
    · exact inside
  · exact .inr

/-- Values are not split exactly when they have no separator. -/
theorem splitRange_eq_none_iff {values : List Char} : splitRange values = none ↔ ¬ separator <:+: values := by
  induction values using splitRange.induct with
  | case1 => decide
  | case2 rest =>
    have begins : separator <:+: 't' :: 'o' :: rest := ⟨[], rest, rfl⟩
    simp [splitRange, begins]
  | case3 c rest other front back found ih =>
    -- Both go on to what follows the first character, as in the last case.
    have split : splitRange (c :: rest) ≠ none := by simp [splitRange.eq_3 c rest other, found]
    rw [separator_infix_cons_iff other, ← ih, found]
    simpa using split
  | case4 c rest other found ih =>
    rw [separator_infix_cons_iff other, ← ih, found]
    simp [splitRange.eq_3 c rest other, found]

/-- Values are split at the separator in front of which no other one begins. -/
theorem splitRange_append {before : List Char} (first : ¬ separator <:+: before ++ ['t'])
    (behind : List Char) : splitRange (before ++ (separator ++ behind)) = some (before, behind) := by
  induction before with
  | nil => rfl
  | cons c before ih =>
    have other : ∀ more, c = 't' → before ++ (separator ++ behind) = 'o' :: more → False := by
      rintro more rfl second
      cases before with
      | nil => cases second
      | cons d before =>
        -- The separator would begin at the first character already.
        obtain ⟨rfl, -⟩ := List.cons.inj second
        exact first ⟨[], before ++ ['t'], rfl⟩
    -- Behind its first character the piece in front has no separator either.
    have later : ¬ separator <:+: before ++ ['t'] := fun inside => first (List.infix_cons inside)
    rw [List.cons_append, splitRange.eq_3 _ _ other, ih later]

/-- What values are split at is their first separator. -/
theorem splitRange_eq_some {values before behind : List Char}
    (split : splitRange values = some (before, behind)) :
    values = before ++ (separator ++ behind) ∧ ¬ separator <:+: before ++ ['t'] := by
  induction values using splitRange.induct generalizing before with
  | case1 => simp [splitRange] at split
  | case2 rest =>
    obtain ⟨rfl, rfl⟩ : before = [] ∧ behind = rest := by simpa [splitRange, eq_comm] using split
    exact ⟨rfl, by decide⟩
  | case3 c rest other front back found ih =>
    -- The split lies further on, so the separator does not begin at this character.
    rw [splitRange.eq_3 c rest other, found] at split
    obtain ⟨rfl, rfl⟩ : before = c :: front ∧ behind = back := by simpa [eq_comm] using split
    obtain ⟨rfl, first⟩ := ih found
    refine ⟨rfl, ?_⟩
    rw [List.cons_append, separator_infix_cons_iff]
    · exact first
    · -- In the whole the separator would begin at this character as well.
      intro more letter second
      cases front with
      | nil => cases second
      | cons d front =>
        obtain ⟨rfl, -⟩ := List.cons.inj second
        exact other _ letter rfl
  | case4 c rest other found => simp [splitRange.eq_3 c rest other, found] at split

/-- The bounds of values are their parts. -/
theorem parts_iff {values : String} {first last : List Char} :
    Parts values.toList first last ↔
      first = (bounds values).1.toList ∧ last = (bounds values).2.toList := by
  have stripped : ∀ text, (Text.stripBlanks text).toList = withoutBlanks text.toList := fun _ =>
    String.toList_ofList
  unfold bounds
  constructor
  · -- Whether the values are split is told by the way in which they have their parts.
    intro parts
    generalize same : values.toList = chars at parts
    cases parts with
    | range none =>
      rw [splitRange_append none]
      simp [stripped]
    | single none =>
      rw [splitRange_eq_none_iff.mpr none]
      simp [stripped, same]
  · -- The bounds were found at the first separator, or there is none.
    rintro ⟨rfl, rfl⟩
    cases split : splitRange values.toList with
    | none =>
      simp only [stripped]
      exact .single (splitRange_eq_none_iff.mp split)
    | some parts =>
      obtain ⟨whole, first⟩ := splitRange_eq_some split
      simp only [stripped, String.toList_ofList]
      rw [whole]
      exact .range first

/-- A blank is no part of a separator, so that none begins with it. -/
theorem not_prefix_of_isBlank {letter blank : Char} (member : letter ∈ separator)
    (isBlank : Text.isBlank blank = true) (more rest : List Char) : ¬ letter :: more <+: blank :: rest := by
  rintro ⟨_, same⟩
  obtain ⟨rfl, -⟩ := List.cons.inj same
  have none : ∀ letter ∈ separator, Text.isBlank letter = false := by simp [separator, Text.isBlank]
  simp [none letter member] at isBlank

/-- A separator of values with a blank put in was there before. -/
theorem separator_infix_of_insert {front back : List Char} {blank : Char}
    (isBlank : Text.isBlank blank = true) (inside : separator <:+: front ++ blank :: back) :
    separator <:+: front ++ back := by
  -- The separator lies in front of the blank, begins at it or behind it, or stands on both sides.
  rcases List.infix_append_iff.mp inside with within | within | ⟨begun, ended, whole, ends, begins⟩
  · exact List.infix_append_of_infix_left within
  · rcases List.infix_cons_iff.mp within with begins | within
    · exact absurd begins (not_prefix_of_isBlank (by decide) isBlank _ _)
    · exact List.infix_append_of_infix_right within
  · -- A separator on both sides of the place would go on with the blank.
    cases ended with
    | nil =>
      rw [List.append_nil] at whole
      rw [whole]
      exact List.infix_append_of_infix_left ends.isInfix
    | cons letter more =>
      have member : letter ∈ separator := by simp [whole]
      exact absurd begins (not_prefix_of_isBlank member isBlank _ _)

/-- Blanks do not count in what is left without them. -/
theorem withoutBlanks_insert {blank : Char} (isBlank : Text.isBlank blank = true) (front back : List Char) :
    withoutBlanks (front ++ blank :: back) = withoutBlanks (front ++ back) := by
  simp [withoutBlanks, isBlank]

/-- A place in values with a separator is in front of it, in its middle or behind it. -/
theorem place_cases {front back before behind : List Char}
    (same : front ++ back = before ++ (separator ++ behind)) :
    (∃ more, before = front ++ more ∧ back = more ++ (separator ++ behind)) ∨
      (front = before ++ ['t'] ∧ back = 'o' :: behind) ∨
      ∃ more, front = before ++ (separator ++ more) ∧ behind = more ++ back := by
  rcases List.append_eq_append_iff.mp same with inFront | ⟨more, rfl, whole⟩
  · exact .inl inFront
  · -- What reaches beyond the piece in front ends within the separator or goes on behind it.
    rcases more with _ | ⟨t, _ | ⟨o, more⟩⟩
    · exact .inl ⟨[], by simp, by simpa using whole.symm⟩
    · obtain ⟨rfl, rfl⟩ : t = 't' ∧ back = 'o' :: behind := by simpa [separator, eq_comm] using whole
      exact .inr (.inl ⟨rfl, rfl⟩)
    · obtain ⟨rfl, rfl, rfl⟩ : t = 't' ∧ o = 'o' ∧ behind = more ++ back := by
        simpa [separator, eq_comm] using whole
      exact .inr (.inr ⟨more, rfl, rfl⟩)

/-- A blank that is put into values leaves their parts as they are. -/
theorem Parts.insertBlank {values spaced first last : List Char} (parts : Parts values first last)
    (inserted : InsertsBlank values spaced) : Parts spaced first last := by
  obtain @⟨front, back, blank, isBlank, outside⟩ := inserted
  generalize same : front ++ back = values at parts
  -- In front of the first separator and behind it the blank is dropped, and nowhere does it make a new one.
  cases parts with
  | single none =>
    -- Values without a separator stay without one.
    subst same
    rw [← withoutBlanks_insert isBlank]
    exact .single fun inside => none (separator_infix_of_insert isBlank inside)
  | @range before behind none =>
    rcases place_cases same with ⟨more, rfl, rfl⟩ | ⟨rfl, rfl⟩ | ⟨more, rfl, rfl⟩
    · -- In front of the separator the blank must not begin one with what is there.
      rw [← withoutBlanks_insert isBlank, ← List.cons_append, ← List.append_assoc]
      refine .range fun inside => none ?_
      rw [List.append_assoc, List.cons_append] at inside
      rw [List.append_assoc]
      exact separator_infix_of_insert isBlank inside
    · exact absurd ⟨by simp, rfl, none⟩ outside
    · -- Behind it the piece in front is as it was.
      rw [← withoutBlanks_insert isBlank, List.append_assoc, List.append_assoc]
      exact .range none

/-- Blanks that are put into values one after the other leave their parts as they are. -/
theorem Parts.insertBlanks {values spaced first last : List Char} (parts : Parts values first last)
    (inserted : Relation.ReflTransGen InsertsBlank values spaced) : Parts spaced first last := by
  -- Each blank leaves the parts that the ones before it have left.
  induction inserted with
  | refl => exact parts
  | tail _ step ih => exact ih.insertBlank step

/-- All that a sub-function takes from its record, when the values of this one have the given parts. -/
structure IsReadFrom (record : Record.SubFunction) (first last : List Char) (item : SubFunction) :
    Prop where
  name : item.name = record.name
  startText : item.startText.toList = first
  endText : item.endText.toList = last
  start : IsHexNumeral first item.start
  stop : IsHexNumeral last item.stop
  isRange : item.isRange = true ↔ item.start < item.stop
  displayName : item.displayName = record.shortName
  mnemonic : item.mnemonic = record.mnemonic
  detail : item.detail = Text.escapeDetail record.details

/-- A sub-function that a record describes is made of the parts of its values. -/
theorem isReadFrom_of_accepted {path : Files.Path} {record : Record.SubFunction} {item : SubFunction}
    (accepted : ofRecord path record = .ok item) :
    IsReadFrom record (bounds record.values).1.toList (bounds record.values).2.toList item := by
  -- A description says that the bounds were read, and what can be read is a numeral.
  obtain ⟨name, described⟩ := ofRecord_eq_ok_iff.mp accepted
  constructor
  case name => exact name
  case startText => rw [described.startText]
  case endText => rw [described.endText]
  case start => exact described.startText ▸ (Numeral.parseHex_eq_ok_iff.mp described.start).1
  case stop => exact described.endText ▸ (Numeral.parseHex_eq_ok_iff.mp described.stop).1
  case isRange => exact described.isRange_iff
  case displayName => exact described.displayName
  case mnemonic => exact described.mnemonic
  case detail => exact described.detail

/-- A record is accepted when its values are numerals in order that fit a byte. -/
theorem exists_ofRecord_of_numerals {path : Files.Path} {record : Record.SubFunction} {start stop : Nat}
    (first : IsHexNumeral (bounds record.values).1.toList start)
    (last : IsHexNumeral (bounds record.values).2.toList stop) (ordered : start ≤ stop)
    (fits : stop ≤ greatest) : ∃ item, ofRecord path record = .ok item := by
  -- A byte is far below the numbers at which the reader gives up.
  have byte : greatest < 2 ^ 32 := by decide
  have startFits : start < 2 ^ 32 := by omega
  have stopFits : stop < 2 ^ 32 := by omega
  refine ⟨⟨record.name, (bounds record.values).1, (bounds record.values).2, start, stop, record.shortName,
    record.mnemonic, Text.escapeDetail record.details⟩, ofRecord_eq_ok_iff.mpr ⟨rfl, ?_⟩⟩
  exact {
    startText := rfl, endText := rfl, start_le := ordered, stop_le := fits
    start := Numeral.parseHex_eq_ok_iff.mpr ⟨first, startFits⟩
    stop := Numeral.parseHex_eq_ok_iff.mpr ⟨last, stopFits⟩
    displayName := rfl, mnemonic := rfl, detail := rfl }

/-- What is read of a record depends on the parts of its values alone, except for the values that a
rejection shows. -/
theorem ofRecord_of_bounds_eq {path : Files.Path} {record : Record.SubFunction} {spaced : String}
    (same : bounds spaced = bounds record.values) :
    ofRecord path { record with values := spaced } =
      (ofRecord path record).mapError fun rejection => { rejection with value := spaced } := by
  -- Whatever is wrong with the values is found in their parts, and only the message shows them whole.
  unfold ofRecord
  simp only [same]
  cases Numeral.parseHex 32 (bounds record.values).1 with
  | error fault => rfl
  | ok start =>
    cases Numeral.parseHex 32 (bounds record.values).2 with
    | error fault => rfl
    | ok stop =>
      by_cases outside : stop < start ∨ greatest < stop
      · simp only [if_pos outside]
        rfl
      · simp only [if_neg outside]
        rfl

/-- A record is accepted exactly when the parts of its values are numerals of base sixteen in order that
are at most 255. Then the sub-function has these parts and numbers, and the texts of the record. Blanks
that are put into the values, except in the middle of the first separator, change nothing of this. -/
theorem exists_ofRecord_iff_parts (path : Files.Path) (record : Record.SubFunction) :
    ∃ first last, Parts record.values.toList first last ∧
      ((∃ item, ofRecord path record = .ok item) ↔
        ∃ start stop, IsHexNumeral first start ∧ IsHexNumeral last stop ∧ start ≤ stop ∧ stop ≤ 0xFF) ∧
      (∀ item, ofRecord path record = .ok item → IsReadFrom record first last item) ∧
      ∀ spaced : String, Relation.ReflTransGen InsertsBlank record.values.toList spaced.toList →
        ofRecord path { record with values := spaced } =
          (ofRecord path record).mapError fun rejection => { rejection with value := spaced } := by
  have parts : Parts record.values.toList (bounds record.values).1.toList (bounds record.values).2.toList :=
    parts_iff.mpr ⟨rfl, rfl⟩
  refine ⟨_, _, parts, ?_, ?_, ?_⟩
  · constructor
    · rintro ⟨item, accepted⟩
      have described := (ofRecord_eq_ok_iff.mp accepted).2
      have read := isReadFrom_of_accepted accepted
      exact ⟨item.start, item.stop, read.start, read.stop, described.start_le, described.stop_le⟩
    · rintro ⟨start, stop, first, last, ordered, fits⟩
      exact exists_ofRecord_of_numerals first last ordered fits
  · exact fun item accepted => isReadFrom_of_accepted accepted
  · -- The values with blanks put in have the same parts, so they have the same bounds.
    intro spaced inserted
    obtain ⟨first, last⟩ := parts_iff.mp (parts.insertBlanks inserted)
    exact ofRecord_of_bounds_eq (Prod.ext (String.toList_inj.mp first.symm) (String.toList_inj.mp last.symm))

/-- Blanks may stand within a number, even in its marker, and a sign behind the marker. -/
example : (ofRecord "serv_sub.json" ⟨"a", "x", "0 x+1 to 0XF f", "", "", ""⟩).map
    (fun item => (item.startText, item.stop)) = .ok ("0x+1", 0xFF) := by
  decide +kernel

end UdsCatalog.SubFunction
