import Mathlib
import UdsCatalog.Proofs.Toml.Quotes
import UdsCatalog.Toml.Reader

/-!
Documents of tables with texts read back. Each line changes what has been read so far in one way, and the lines
of a table leave it behind those that were read before.
-/

namespace UdsCatalog.Toml

open Text (past? firstOf)

variable {rest : List Char}

/-! ### Names without quotes -/

/-- A name that needs no quotes. -/
structure IsBareKey (name : String) : Prop where
  notEmpty : name ≠ ""
  plain : ∀ c ∈ name.toList, isKeyChar c = true

/-- A name without quotes begins with a character of names. -/
theorem IsBareKey.exists_toList_eq {name : String} (bare : IsBareKey name) :
    ∃ first more, name.toList = first :: more ∧ isKeyChar first = true := by
  cases chars : name.toList with
  | nil => exact absurd (String.toList_eq_nil_iff.mp chars) bare.notEmpty
  | cons first more => exact ⟨first, more, rfl, bare.plain first (by simp [chars])⟩

/-- A character of names is none of the others. -/
theorem ne_of_isKeyChar {c other : Char} (key : isKeyChar c = true) (noKey : isKeyChar other = false) :
    c ≠ other := by
  rintro rfl
  rw [key] at noKey
  cases noKey

/-- Where no gap stands, none is left out. -/
theorem pastGap_cons {c : Char} (noGap : isGap c = false) (rest : List Char) :
    pastGap (c :: rest) = c :: rest := by
  rw [pastGap, List.dropWhile_cons_of_neg (by simp [noGap])]

/-- No character of names is a gap. -/
theorem isGap_of_isKeyChar {c : Char} (key : isKeyChar c = true) : isGap c = false := by
  have noSpace : c ≠ ' ' := ne_of_isKeyChar key (by decide)
  have noTab : c ≠ '\t' := ne_of_isKeyChar key (by decide)
  simp [isGap, noSpace, noTab]

/-- A name without quotes is read up to the first character that is none of names. -/
theorem readBareKey_append {name : String} (bare : IsBareKey name) {c : Char}
    (ends : isKeyChar c = false) : readBareKey (name.toList ++ c :: rest) = some (name, c :: rest) := by
  have stops : ¬ isKeyChar c = true := by simp [ends]
  have filled : name.toList.isEmpty = false := by simpa using bare.notEmpty
  simp [readBareKey, List.takeWhile_append_of_pos bare.plain, List.dropWhile_append_of_pos bare.plain,
    List.takeWhile_cons_of_neg stops, List.dropWhile_cons_of_neg stops, filled]

/-- A name without quotes is no text between quotes. -/
theorem readShortText_append {name : String} (bare : IsBareKey name) (rest : List Char) :
    readShortText (name.toList ++ rest) = none := by
  -- A bare key begins with a character of keys, and quotes are none.
  obtain ⟨first, more, chars, key⟩ := bare.exists_toList_eq
  have noDouble : first ≠ '"' := ne_of_isKeyChar key (by decide)
  have noSingle : first ≠ '\x27' := ne_of_isKeyChar key (by decide)
  have noQuotes : Quotes.openingShort? (first :: (more ++ rest)) = none := by
    unfold Quotes.openingShort?
    split
    · rename_i same
      exact absurd (List.cons.inj same).1 noDouble
    · rename_i same
      exact absurd (List.cons.inj same).1 noSingle
    · rfl
  rw [readShortText, readQuotedBy, chars, List.cons_append, noQuotes]
  rfl

/-- A name without quotes is a key when neither a name nor a dot follows it. -/
theorem readKey_append {name : String} (bare : IsBareKey name) {c : Char} {behind : List Char}
    (ends : isKeyChar c = false) (next : pastGap (c :: rest) = behind) (noDot : behind.head? ≠ some '.') :
    readKey (name.toList ++ c :: rest) = some (([], name), behind) := by
  -- The name is no text between quotes, so it is read without them.
  have noGap : pastGap (name.toList ++ c :: rest) = name.toList ++ c :: rest := by
    obtain ⟨first, more, chars, key⟩ := bare.exists_toList_eq
    rw [chars, List.cons_append, pastGap_cons (isGap_of_isKeyChar key)]
  have more : depthLimit - 1 = 78 + 1 := rfl
  rw [readKey, more, readKeyWithin, noGap, firstOf, readShortText_append bare, readBareKey_append bare ends]
  simp only [Option.bind_eq_bind, Option.bind_some, next]
  split
  · exact absurd rfl noDot
  · rfl

/-- A line that begins with a name has something on it. -/
theorem pastLineEnd?_append {name : String} (bare : IsBareKey name) (rest : List Char) :
    pastLineEnd? (name.toList ++ rest) = none := by
  -- A character of names neither starts a comment nor ends a line.
  obtain ⟨first, more, chars, key⟩ := bare.exists_toList_eq
  have noFeed : first ≠ '\n' := ne_of_isKeyChar key (by decide)
  have noReturn : first ≠ '\r' := ne_of_isKeyChar key (by decide)
  have noComment : pastComment (first :: (more ++ rest)) = first :: (more ++ rest) := by
    unfold pastComment
    split
    · rename_i same
      exact absurd (List.cons.inj same).1 (ne_of_isKeyChar key (by decide))
    · rfl
  rw [chars, List.cons_append, pastLineEnd?, pastGap_cons (isGap_of_isKeyChar key), noComment]
  exact Quotes.pastNewline?_cons noFeed noReturn _

/-! ### Values -/

/-- A text between quotes begins with a mark. -/
theorem exists_write_eq (quotes : Quotes) (text : List Char) :
    ∃ more, quotes.write text = quotes.mark :: more := by
  cases quotes <;> exact ⟨_, rfl⟩

/-- A text that is put between quotes is read as a value. -/
theorem readValue_write (text : List Char) (ends : rest.head? ≠ some (Quotes.choose text).mark) :
    readValue ((Quotes.choose text).write text ++ rest) = some (.text (String.ofList text), rest) := by
  have read := Quotes.readText_write text ends
  generalize Quotes.choose text = quotes at *
  obtain ⟨more, begins⟩ := exists_write_eq quotes text
  have noList : quotes.mark ≠ '[' := by cases quotes <;> decide
  have noTable : quotes.mark ≠ '\x7b' := by cases quotes <;> decide
  rw [begins, List.cons_append] at read ⊢
  have deep : depthLimit - 1 = 78 + 1 := rfl
  -- What begins with a mark is neither a list nor a table.
  rw [readValue, deep, readValueWithin]
  · simp [readScalar, firstOf, readAs, read]
  · exact fun behind same => noList (List.cons.inj same).1
  · exact fun behind same => noTable (List.cons.inj same).1

/-! ### Fields -/

section Fields

variable {α : Type} {name : String}

/-- Behind things of other names, a thing is put as if these were not there. -/
theorem put_append {things : Named α} (absent : things.lookup name = none) (a : α) (rest : Named α) :
    Named.put name a (things ++ rest) = things ++ Named.put name a rest := by
  -- None of the things in front has the name, so the search goes past all of them.
  induction things with
  | nil => rfl
  | cons first others ih =>
    obtain ⟨other, kept⟩ := first
    by_cases same : name = other
    · simp [same] at absent
    · have apart : (name == other) = false := by simpa using same
      rw [List.lookup_cons, apart] at absent
      simp [Named.put, Ne.symm same, ih absent]

/-- A name that is not there comes last. -/
theorem put_of_lookup_eq_none {things : Named α} (absent : things.lookup name = none) (a : α) :
    Named.put name a things = things ++ [(name, a)] := by
  have atEnd := put_append absent a []
  rwa [List.append_nil] at atEnd

/-- Behind things of other names, a name is found where it first stands. -/
theorem lookup_append_cons {things : Named α} (absent : things.lookup name = none) (a : α)
    (rest : Named α) : (things ++ (name, a) :: rest).lookup name = some a := by
  simp [List.lookup_append, absent]

/-- Behind things of other names, what a name stands for is replaced. -/
theorem put_append_cons {things : Named α} (absent : things.lookup name = none) (a b : α) :
    Named.put name b (things ++ [(name, a)]) = things ++ [(name, b)] := by
  rw [put_append absent]
  simp [Named.put]

end Fields

/-! ### Lines -/

namespace Draft

variable {before inner : Fields} {name key : String}

/-- A document of which the last table that was read is still open. -/
def opened (before : Fields) (name : String) (inner : Fields) : Draft :=
  ⟨before ++ [(name, .table false false inner)], [name]⟩

/-- An empty line changes nothing. -/
theorem readLine_empty (draft : Draft) (rest : List Char) :
    draft.readLine ('\n' :: rest) = some (draft, rest) := rfl

/-- A line with the name of a table opens it. -/
theorem readLine_header (bare : IsBareKey name) (absent : before.lookup name = none)
    (table : List String) (rest : List Char) :
    (⟨before, table⟩ : Draft).readLine ('[' :: (name.toList ++ ']' :: '\n' :: rest)) =
      some (opened before name [], rest) := by
  have key : readKey (name.toList ++ ']' :: '\n' :: rest) = some (([], name), ']' :: '\n' :: rest) :=
    readKey_append bare (by decide) rfl (by simp)
  have opens : openTable [] name before = some (before ++ [(name, .table false false [])]) := by
    simp only [openTable, within, absent, put_of_lookup_eq_none absent]
  -- With a second bracket the line would open the next of several tables.
  obtain ⟨first, more, chars, plain⟩ := bare.exists_toList_eq
  have single : first ≠ '[' := ne_of_isKeyChar plain (by decide)
  unfold readLine
  split
  · rename_i same
    rw [chars] at same
    exact absurd (List.cons.inj (List.cons.inj same).2).1 single
  · rename_i same
    obtain ⟨-, rfl⟩ := List.cons.inj same
    simp only [readHeader, key, Option.bind_eq_bind, Option.bind_some, past?, beq_self_eq_true, if_true,
      opens]
    rfl
  · rename_i noList noTable
    exact absurd rfl (noTable _)

/-- A value is set in the table that is open, behind those that were set before. -/
theorem set_opened (absent : before.lookup name = none) (free : inner.lookup key = none) (value : Toml) :
    (opened before name inner).set [] key value =
      some (opened before name (inner ++ [(key, .value value)])) := by
  -- The open table has a line of its own, which only dots may not enter.
  have found := lookup_append_cons absent (Item.table false false inner) []
  have assigned : assign [] key value inner = some (inner ++ [(key, .value value)]) := by
    simp [assign, within, free, put_of_lookup_eq_none free]
  simp only [set, opened, within, found, assigned, Option.map_some, put_append_cons absent]
  rfl

/-- A line with a name and a text has the text between quotes behind a sign. -/
theorem toList_textLine (key text : String) :
    (textLine key text).toList = key.toList ++ ' ' :: '=' :: ' ' ::
      ((Quotes.choose text.toList).write text.toList ++ ['\n']) := by
  simp [textLine, textValue]

/-- A line with a name and a text sets the name to the text. -/
theorem readLine_text (bare : IsBareKey key) (absent : before.lookup name = none)
    (free : inner.lookup key = none) (text : String) (rest : List Char) :
    (opened before name inner).readLine ((textLine key text).toList ++ rest) =
      some (opened before name (inner ++ [(key, .value (.text text))]), rest) := by
  have line : (textLine key text).toList ++ rest = key.toList ++ ' ' :: '=' :: ' ' ::
      ((Quotes.choose text.toList).write text.toList ++ '\n' :: rest) := by
    simp [toList_textLine]
  -- The text between its quotes is read back, up to the end of the line.
  have value : readValue ((Quotes.choose text.toList).write text.toList ++ '\n' :: rest) =
      some (.text text, '\n' :: rest) := by
    have ends : ('\n' :: rest).head? ≠ some (Quotes.choose text.toList).mark := by
      cases Quotes.choose text.toList <;> simp [Quotes.mark]
    rw [readValue_write text.toList ends, String.ofList_toList]
  -- Quotes are no gap, so the one blank in front of them is all that is skipped.
  have gap : pastGap (' ' :: ((Quotes.choose text.toList).write text.toList ++ '\n' :: rest)) =
      (Quotes.choose text.toList).write text.toList ++ '\n' :: rest := by
    obtain ⟨more, begins⟩ := exists_write_eq (Quotes.choose text.toList) text.toList
    have noGap : isGap (Quotes.choose text.toList).mark = false := by
      cases Quotes.choose text.toList <;> decide
    rw [begins, List.cons_append]
    exact pastGap_cons noGap _
  -- From here on only what is read from the text between quotes counts.
  generalize (Quotes.choose text.toList).write text.toList ++ '\n' :: rest = written at *
  have own : readKey (key.toList ++ ' ' :: '=' :: ' ' :: written) = some (([], key), '=' :: ' ' :: written) :=
    readKey_append bare (by decide) rfl (by simp)
  have pair : readPair readValue (key.toList ++ ' ' :: '=' :: ' ' :: written) =
      some (([], key, .text text), '\n' :: rest) := by
    simp [readPair, own, past?, gap, value]
  have content := pastLineEnd?_append bare (' ' :: '=' :: ' ' :: written)
  -- A bare key does not begin like a header.
  have noBracket : ∀ behind, key.toList ++ ' ' :: '=' :: ' ' :: written ≠ '[' :: behind := by
    obtain ⟨first, more, chars, plain⟩ := bare.exists_toList_eq
    rw [chars]
    exact fun behind same => ne_of_isKeyChar plain (by decide) (List.cons.inj same).1
  rw [line]
  unfold readLine
  split
  · rename_i same
    exact absurd same (noBracket _)
  · rename_i same
    exact absurd same (noBracket _)
  · rw [content]
    simp only [pair, Option.bind_eq_bind, Option.bind_some, set_opened absent free]
    rfl

/-! ### Runs of lines -/

/-- The lines of a text lead from what has been read to an outcome, whatever number bounds them. -/
def Leads (draft : Draft) (chars : List Char) (outcome : Option Draft) : Prop :=
  ∀ room, chars.length ≤ room → readLines room draft chars = outcome

/-- Behind the last line all has been read. -/
theorem leads_nil (draft : Draft) : Leads draft [] (some draft) := by
  intro room enough
  cases room <;> rfl

/-- A line leads to where the lines behind it lead from what the line has made. -/
theorem Leads.line {draft next : Draft} {c : Char} {line rest : List Char} {outcome : Option Draft}
    (noGap : isGap c = false) (read : draft.readLine (c :: line ++ rest) = some (next, rest))
    (later : Leads next rest outcome) : Leads draft (c :: line ++ rest) outcome := by
  -- A line has at least one character, so one number less is enough for the rest.
  intro room enough
  cases room with
  | zero => simp at enough
  | succ room =>
    rw [List.cons_append] at read enough ⊢
    rw [readLines, pastGap_cons noGap, read]
    refine later room ?_
    simp only [List.length_cons, List.length_append] at enough
    omega

/-- An empty line leads to where the lines behind it lead. -/
theorem Leads.emptyLine {draft : Draft} {rest : List Char} {outcome : Option Draft}
    (later : Leads draft rest outcome) : Leads draft (['\n'] ++ rest) outcome :=
  Leads.line (by decide) (readLine_empty draft rest) later

/-- The fields that lines with names and texts set. -/
def textFields (lines : List (String × String)) : Fields :=
  lines.map fun (key, shown) => (key, .value (.text shown))

/-- The characters of lines with names and texts. -/
def linesOf (lines : List (String × String)) : List Char :=
  lines.flatMap fun (key, shown) => (textLine key shown).toList

/-- Lines with names and texts set the names to the texts, behind those that were set before. -/
theorem leads_textLines (absent : before.lookup name = none) {lines : List (String × String)}
    (bare : ∀ line ∈ lines, IsBareKey line.1) (distinct : (lines.map (·.1)).Nodup)
    (free : ∀ line ∈ lines, inner.lookup line.1 = none) {rest : List Char} {outcome : Option Draft}
    (later : Leads (opened before name (inner ++ textFields lines)) rest outcome) :
    Leads (opened before name inner) (linesOf lines ++ rest) outcome := by
  -- Each line leaves its text behind those of the lines before it.
  induction lines generalizing inner with
  | nil => simpa [textFields, linesOf] using later
  | cons line lines ih =>
    obtain ⟨key, shown⟩ := line
    obtain ⟨own, distinct⟩ := List.nodup_cons.mp distinct
    have bareKey : IsBareKey key := bare _ List.mem_cons_self
    have freeKey : inner.lookup key = none := free _ List.mem_cons_self
    -- The other names are still free behind this line.
    have stillFree : ∀ line ∈ lines, (inner ++ [(key, Item.value (.text shown))]).lookup line.1 = none := by
      intro line member
      have apart : line.1 ≠ key := fun same => own (List.mem_map.mpr ⟨line, member, same⟩)
      simp [List.lookup_append, free line (List.mem_cons_of_mem _ member), apart]
    have others := ih (fun line member => bare line (List.mem_cons_of_mem _ member)) distinct stillFree
      (by simpa [textFields] using later)
    have read := readLine_text bareKey absent freeKey shown (linesOf lines ++ rest)
    have chars : linesOf ((key, shown) :: lines) ++ rest =
        (textLine key shown).toList ++ (linesOf lines ++ rest) := by simp [linesOf]
    obtain ⟨first, more, begins, plain⟩ := bareKey.exists_toList_eq
    rw [chars]
    rw [toList_textLine, begins, List.cons_append] at read ⊢
    exact Leads.line (isGap_of_isKeyChar plain) read others

/-- The lines of a table leave the table behind those that were read before. -/
theorem leads_tableLines (bareName : IsBareKey name) (absent : before.lookup name = none)
    {lines : List (String × String)} (bare : ∀ line ∈ lines, IsBareKey line.1)
    (distinct : (lines.map (·.1)).Nodup) (table : List String) {rest : List Char} {outcome : Option Draft}
    (later : Leads (opened before name (textFields lines)) rest outcome) :
    Leads ⟨before, table⟩ ((tableLines name lines).toList ++ rest) outcome := by
  -- The header opens an empty table, and each line of a text adds one entry to it.
  have texts : Leads (opened before name []) (linesOf lines ++ rest) outcome :=
    leads_textLines absent bare distinct (fun _ _ => rfl) (by simpa using later)
  have chars : (tableLines name lines).toList ++ rest =
      '[' :: (name.toList ++ [']', '\n']) ++ (linesOf lines ++ rest) := by
    simp [tableLines, linesOf, String.toList_join, List.flatMap_map]
  have read := readLine_header bareName absent table (linesOf lines ++ rest)
  rw [chars]
  exact Leads.line (by decide) (by simpa using read) texts

end Draft

/-- The values of fields, each under its name. -/
theorem valuesOf_eq (fields : Fields) : valuesOf fields = fields.map fun (name, item) => (name, item.toToml) := by
  induction fields with
  | nil => rfl
  | cons first rest ih => rw [valuesOf, ih, List.map_cons]

/-- The table that texts are in. -/
def textTable (lines : List (String × String)) : Toml :=
  .table (lines.map fun (key, shown) => (key, .text shown))

/-- A table that was read is the table that its texts are in. -/
theorem toToml_textFields (lines : List (String × String)) :
    (Item.table false false (Draft.textFields lines)).toToml = textTable lines := by
  simp only [Item.toToml, valuesOf_eq, Draft.textFields, textTable, List.map_map]
  rfl

/-- Two tables with an empty line between them are read as the tables. -/
theorem parse?_tableLines {name other : String} (bareName : IsBareKey name) (bareOther : IsBareKey other)
    (apart : other ≠ name) {lines more : List (String × String)} (bare : ∀ line ∈ lines, IsBareKey line.1)
    (bareMore : ∀ line ∈ more, IsBareKey line.1) (distinct : (lines.map (·.1)).Nodup)
    (distinctMore : (more.map (·.1)).Nodup) :
    parse? (tableLines name lines ++ "\n" ++ tableLines other more) =
      some [(name, textTable lines), (other, textTable more)] := by
  -- The second table has a name of its own.
  have first : List.lookup other [(name, Item.table false false (Draft.textFields lines))] = none := by
    simp [apart]
  -- The lines are followed from the last table back to the first one.
  have last := Draft.leads_tableLines bareOther first bareMore distinctMore [name] (Draft.leads_nil _)
  have middle : (Draft.opened [] name (Draft.textFields lines)).Leads _ _ := last.emptyLine
  have whole := Draft.leads_tableLines bareName rfl bare distinct [] middle
  have chars : (tableLines name lines ++ "\n" ++ tableLines other more).toList =
      (tableLines name lines).toList ++ (['\n'] ++ ((tableLines other more).toList ++ [])) := by
    simp
  -- No mark of the order of bytes stands in front.
  have noMark : pastMark (tableLines name lines ++ "\n" ++ tableLines other more).toList =
      (tableLines name lines ++ "\n" ++ tableLines other more).toList := by
    simp [pastMark, tableLines, past?, byteOrderMark]
  rw [parse?, noMark, chars]
  simp only [whole _ (Nat.le_refl _), Option.map_some, Draft.opened, valuesOf_eq]
  simp [toToml_textFields]

end UdsCatalog.Toml
