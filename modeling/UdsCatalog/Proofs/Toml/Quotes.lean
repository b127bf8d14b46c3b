import Mathlib
import UdsCatalog.Proofs.Numeral.Hex
import UdsCatalog.Toml.Writer

/-!
Texts between quotes read back. What stands between the quotes spells a text character by character: as the
character itself, as an escape, or, between long quotes, as a mark that does not close them.
-/

namespace UdsCatalog.Toml.Quotes

open Text (past?)

variable {quotes : Quotes} {c : Char} {code written text rest : List Char}

/-! ### Spelling -/

/-- A character stands for itself between quotes. -/
structure Shows (quotes : Quotes) (c : Char) : Prop where
  noMark : c ≠ quotes.mark
  noEscape : c = '\\' → quotes.hasEscapes = false
  visible : isControl c = false
  sameLine : c = '\n' → quotes.isLong = true

/-- What stands behind a backslash is read as a character. -/
structure Escapes (quotes : Quotes) (code : List Char) (c : Char) : Prop where
  allowed : quotes.hasEscapes = true
  reads : ∀ rest, quotes.readBody .escape (code ++ rest) =
    (quotes.readBody .plain rest).map fun (body, behind) => (c :: body, behind)

/-- What stands between quotes spells a text. In a long one there may be up to two marks in a row. -/
inductive Spells (quotes : Quotes) : List Char → List Char → Prop where
  | nil : Spells quotes [] []
  | plain {c : Char} {written text : List Char} (shows_ : Shows quotes c) (later : Spells quotes written text) :
      Spells quotes (c :: written) (c :: text)
  | mark {written text : List Char} (long : quotes.isLong = true)
      (few : ∀ behind, written ≠ quotes.mark :: quotes.mark :: behind) (later : Spells quotes written text) :
      Spells quotes (quotes.mark :: written) (quotes.mark :: text)
  | escape {c : Char} {code written text : List Char} (escapes : Escapes quotes code c)
      (later : Spells quotes written text) : Spells quotes ('\\' :: (code ++ written)) (c :: text)

/-- No mark is a backslash. -/
theorem mark_ne_backslash (quotes : Quotes) : quotes.mark ≠ '\\' := by
  cases quotes <;> decide

/-- A mark alone spells a mark. -/
theorem Spells.eq_of_mark (spells : Spells quotes written text) (alone : written = [quotes.mark]) :
    text = [quotes.mark] := by
  -- A mark is neither a character that stands for itself nor the start of an escape.
  cases spells with
  | nil => cases alone
  | plain shows_ later => exact absurd (List.cons.inj alone).1 shows_.noMark
  | mark long few later =>
    obtain rfl := (List.cons.inj alone).2
    cases later
    rfl
  | escape escapes later => exact absurd (List.cons.inj alone).1.symm (mark_ne_backslash quotes)

/-! ### Reading -/

/-- A text that does not start with a mark does not start with several. -/
theorem past?_mark_eq_none {mark : Char} (ends : rest.head? ≠ some mark) (word : List Char) :
    past? (mark :: word) rest = none := by
  -- The first character is not the mark, or there is none.
  cases rest with
  | nil => rfl
  | cons first rest =>
    have apart : (mark == first) = false := by simpa using fun same : mark = first => ends (by simp [same])
    rw [past?, apart]
    rfl

/-- Behind the first of three to five marks, the last three close the text. -/
theorem closing?_marks {mark : Char} (ends : rest.head? ≠ some mark) {count : Nat} (few : count ≤ 2) :
    closing? mark (List.replicate count mark ++ (mark :: mark :: rest)) =
      some (List.replicate count mark, rest) := by
  -- Behind the marks there is no other one, so the reader looks for at most five.
  have noMore := fun word => past?_mark_eq_none ends word
  interval_cases count <;> simp [closing?, past?, noMore]

/-- A mark that two more do not follow closes nothing. -/
theorem closing?_eq_none {mark : Char} {chars : List Char}
    (few : ∀ behind, chars ≠ mark :: mark :: behind) : closing? mark chars = none := by
  -- Only the next two characters are looked at before more marks are.
  have single : past? [mark, mark] chars = none := by
    match chars with
    | [] => rfl
    | [first] => by_cases same : mark = first <;> simp [past?, same]
    | first :: second :: behind =>
      by_cases same : mark = first
      · have apart : mark ≠ second := by
          rintro rfl
          exact few behind (by rw [same])
        simp [past?, apart]
      · simp [past?, same]
  simp [closing?, single]

/-- The marks on either side of a long text. -/
theorem fence_of_isLong (long : quotes.isLong = true) :
    quotes.fence = [quotes.mark, quotes.mark, quotes.mark] := by
  rw [fence, long]
  rfl

/-- The mark on either side of a text on one line. -/
theorem fence_of_isShort (short : quotes.isLong = false) : quotes.fence = [quotes.mark] := by
  rw [fence, short]
  rfl

/-- A character that stands for itself is taken as it is. -/
theorem stepPlain_of_shows (shows_ : Shows quotes c) (rest : List Char) :
    stepPlain quotes c rest = .goOn .plain [c] := by
  have noMark : (c == quotes.mark) = false := by simpa using shows_.noMark
  have noEscape : (c == '\\' && quotes.hasEscapes) = false := by
    by_cases same : c = '\\' <;> simp [same, shows_.noEscape]
  -- The first half of an end of line is a control character.
  have noCarriage : isCarriage c rest = false := by
    have visible := shows_.visible
    by_cases same : c = '\r'
    · subst same
      cases visible
    · simp [isCarriage, same]
  have sameLine : (c == '\n' && !quotes.isLong) = false := by
    by_cases same : c = '\n' <;> simp [same, shows_.sameLine]
  simp [stepPlain, noMark, noEscape, noCarriage, shows_.visible, sameLine]

/-- A mark in a long text is taken as it is when two more do not follow, and otherwise the text ends. -/
theorem stepPlain_mark (long : quotes.isLong = true) (rest : List Char) :
    stepPlain quotes quotes.mark rest =
      ((closing? quotes.mark rest).map fun (taken, behind) => .close taken behind).getD
        (.goOn .plain [quotes.mark]) := by
  rw [stepPlain, if_pos (beq_self_eq_true _), if_pos long]
  cases closing? quotes.mark rest <;> rfl

/-- The marks behind a text end it. -/
theorem readBody_fence (ends : rest.head? ≠ some quotes.mark) :
    quotes.readBody .plain (quotes.fence ++ rest) = some ([], rest) := by
  -- A short text ends at its first mark. A long one must look at three.
  cases long : quotes.isLong with
  | false => simp [fence_of_isShort long, readBody, step, stepPlain, long]
  | true =>
    have closes := closing?_marks ends (Nat.zero_le 2)
    rw [List.replicate_zero, List.nil_append] at closes
    rw [fence_of_isLong long, List.cons_append, List.cons_append, List.cons_append, List.nil_append,
      readBody, step, stepPlain_mark long, closes, Option.map_some, Option.getD_some]

/-- What spells a text is read as the text, up to and with the marks behind it. -/
theorem Spells.readBody_eq (spells : Spells quotes written text)
    (ends : rest.head? ≠ some quotes.mark) :
    quotes.readBody .plain (written ++ (quotes.fence ++ rest)) = some (text, rest) := by
  -- One step for each character, and the rest of the text is read as the rest of the spelling.
  induction spells with
  | nil => exact readBody_fence ends
  | plain shows_ later ih =>
    rw [List.cons_append, readBody, step, stepPlain_of_shows shows_]
    simp [ih]
  | escape escapes later ih =>
    -- A backslash is no mark, so it opens the escape.
    have begins : stepPlain quotes '\\' = fun _ => .goOn .escape [] := by
      funext rest
      have noMark : ('\\' == quotes.mark) = false := by simpa using (mark_ne_backslash quotes).symm
      simp [stepPlain, noMark, escapes.allowed]
    rw [List.cons_append, readBody, step, begins, List.append_assoc]
    simp [escapes.reads, ih]
  | @mark written text long few later ih =>
    rw [List.cons_append, readBody, step, stepPlain_mark long]
    by_cases last : written = [] ∨ written = [quotes.mark]
    · -- The last marks of the text stand beside those that close it.
      rw [fence_of_isLong long]
      rcases last with rfl | rfl
      · cases later
        have closes := closing?_marks ends (show 1 ≤ 2 by omega)
        rw [List.replicate_one, List.singleton_append] at closes
        simp only [List.nil_append, List.cons_append, closes, Option.map_some, Option.getD_some]
      · obtain rfl := later.eq_of_mark rfl
        have closes := closing?_marks ends (Nat.le_refl 2)
        simp only [List.replicate_succ, List.replicate_zero, List.nil_append, List.cons_append] at closes ⊢
        rw [closes, Option.map_some, Option.getD_some]
    · -- Another character stands before the next three marks.
      have goesOn : ∀ behind, written ++ (quotes.fence ++ rest) ≠ quotes.mark :: quotes.mark :: behind := by
        intro behind same
        match written with
        | [] => exact last (.inl rfl)
        | [first] =>
          refine last (.inr ?_)
          rw [(List.cons.inj same).1]
        | first :: second :: more =>
          obtain ⟨firstMark, same⟩ := List.cons.inj same
          have secondMark := (List.cons.inj same).1
          exact few more (by rw [firstMark, secondMark])
      rw [closing?_eq_none goesOn]
      simp [ih]

/-! ### Texts as they are -/

/-- A text without characters that mean something spells itself, and so it does with marks that are few in a
row between long quotes. -/
theorem spells_self (shows_ : ∀ c ∈ text, c ≠ quotes.mark → Shows quotes c)
    (marks : quotes.mark ∉ text ∨ quotes.isLong = true ∧ hasRun 3 quotes.mark text = false) :
    Spells quotes text text := by
  induction text with
  | nil => exact .nil
  | cons c rest ih =>
    -- A text with few marks in a row has no more of them in its rest.
    have later : Spells quotes rest rest := by
      refine ih (fun other member => shows_ other (List.mem_cons_of_mem c member)) ?_
      refine marks.imp (fun absent member => absent (List.mem_cons_of_mem c member)) ?_
      rintro ⟨long, noRun⟩
      exact ⟨long, (Bool.or_eq_false_iff.mp noRun).2⟩
    by_cases same : c = quotes.mark
    · subst same
      rcases marks with absent | ⟨long, noRun⟩
      · exact absurd List.mem_cons_self absent
      · refine .mark long ?_ later
        rintro behind rfl
        simp [hasRun] at noRun
    · exact .plain (shows_ c List.mem_cons_self same) later

/-- A text that quotes without escapes can hold spells itself. -/
theorem spells_of_suits (plain : quotes.hasEscapes = false) (suited : quotes.suits text = true) :
    Spells quotes text text := by
  -- Without escapes a text is written as it stands, so what suits the quotes is what they can show.
  cases quotes with
  | basic => cases plain
  | longBasic => cases plain
  | literal =>
    simp only [suits, Bool.and_eq_true, Bool.not_eq_true', List.any_eq_false, Bool.or_eq_true,
      beq_iff_eq, not_or, Bool.not_eq_true] at suited
    obtain ⟨visible, others⟩ := suited
    refine spells_self (fun c member noMark => ⟨noMark, fun _ => rfl, visible c member, ?_⟩) (.inl ?_)
    · exact fun same => absurd same (others c member).2
    · exact fun member => (others _ member).1 rfl
  | longLiteral =>
    simp only [suits, Bool.and_eq_true, Bool.not_eq_true', List.any_eq_false, Bool.not_eq_true] at suited
    obtain ⟨visible, noRun⟩ := suited
    exact spells_self (fun c member noMark => ⟨noMark, fun _ => rfl, visible c member, fun _ => rfl⟩)
      (.inr ⟨rfl, noRun⟩)

/-! ### Escapes -/

/-- A letter behind a backslash is read as the character that it stands for. -/
theorem escapes_of_simpleEscape? (allowed : quotes.hasEscapes = true) {letter : Char}
    (stands : simpleEscape? letter = some c) : Escapes quotes [letter] c := by
  refine ⟨allowed, fun rest => ?_⟩
  rw [List.singleton_append, readBody, step, stands]
  rfl

/-- Control characters are among the first ones of all. -/
theorem toNat_lt_of_isControl (control : isControl c = true) : c.toNat < 128 := by
  simp only [isControl, Bool.or_eq_true, Bool.and_eq_true, decide_eq_true_eq, beq_iff_eq] at control
  omega

/-- The digits of a control character. -/
theorem fourDigits_eq (control : isControl c = true) :
    fourDigits c = ['0', '0', Numeral.hexDigit (c.toNat / 16), Numeral.hexDigit (c.toNat % 16)] := by
  have below := toNat_lt_of_isControl control
  have quotient : c.toNat / 16 < 16 := by omega
  -- One digit has three zeros in front of it, and two digits have two.
  by_cases small : c.toNat < 16
  · have zero : c.toNat / 16 = 0 := by omega
    have whole : c.toNat % 16 = c.toNat := by omega
    rw [fourDigits, Numeral.hexDigits, if_pos small, zero, whole]
    rfl
  · rw [fourDigits, Numeral.hexDigits, if_neg small, Numeral.hexDigits, if_pos quotient]
    rfl

/-- The digits of a control character behind a backslash are read as the character. -/
theorem escapes_control (allowed : quotes.hasEscapes = true) (control : isControl c = true) :
    Escapes quotes ('u' :: fourDigits c) c := by
  -- A control character has a code of two digits of base sixteen, behind two zeros.
  have noLetter : simpleEscape? 'u' = none := by decide
  have zero : Numeral.digit? 16 '0' = some 0 := by decide
  have below := toNat_lt_of_isControl control
  have first := Numeral.digit?_hexDigit (show c.toNat / 16 < 16 by omega)
  have second := Numeral.digit?_hexDigit (Nat.mod_lt c.toNat (show 16 > 0 by decide))
  have whole : c.toNat / 16 * 16 + c.toNat % 16 = c.toNat := by omega
  have valid : c.toNat.isValidChar := c.valid
  refine ⟨allowed, fun rest => ?_⟩
  rw [fourDigits_eq control]
  simp [readBody, step, noLetter, stepDigit, zero, first, second, whole, valid]
  rfl

/-- What is written for a character that needs an escape is read as the character. -/
theorem exists_escapes_of_escapeOf? (allowed : quotes.hasEscapes = true)
    (escape : quotes.escapeOf? c = some written) : ∃ code, written = '\\' :: code ∧ Escapes quotes code c := by
  -- All but control characters without a letter of their own are written with one letter.
  have letter : ∀ {letter : Char}, simpleEscape? letter = some c → some ['\\', letter] = some written →
      ∃ code, written = '\\' :: code ∧ Escapes quotes code c := by
    intro letter stands same
    exact ⟨[letter], (Option.some.inj same).symm, escapes_of_simpleEscape? allowed stands⟩
  -- A character is known by its number.
  have numbered : ∀ {number : Nat}, (c.toNat == number) = true → Char.ofNat number = c := by
    intro number same
    rw [← beq_iff_eq.mp same, Char.ofNat_toNat]
  unfold escapeOf? at escape
  split at escape
  · rename_i same
    exact letter (by rw [beq_iff_eq.mp same]; rfl) escape
  split at escape
  · rename_i same
    exact letter (by rw [beq_iff_eq.mp same]; rfl) escape
  split at escape
  · rename_i same
    split at escape
    · cases escape
    · exact letter (by rw [beq_iff_eq.mp same]; rfl) escape
  split at escape
  · rename_i same
    exact letter (by rw [beq_iff_eq.mp same]; rfl) escape
  split at escape
  · rename_i same
    exact letter (by rw [← numbered same]; rfl) escape
  split at escape
  · rename_i same
    exact letter (by rw [← numbered same]; rfl) escape
  split at escape
  · rename_i control
    exact ⟨_, (Option.some.inj escape).symm, escapes_control allowed control⟩
  · cases escape

/-- A character that needs no escape stands for itself, unless it is a mark. -/
theorem shows_of_escapeOf? (noMark : c ≠ quotes.mark) (plain : quotes.escapeOf? c = none) :
    Shows quotes c := by
  -- Only an end of line in a long text and characters that show are left without an escape.
  unfold escapeOf? at plain
  split_ifs at plain with noEscape _ newline long _ _ _ control
  · obtain rfl := beq_iff_eq.mp newline
    exact ⟨noMark, fun same => absurd same (by decide), by decide, fun _ => long⟩
  · exact ⟨noMark, fun same => absurd (beq_iff_eq.mpr same) noEscape, by simpa using control,
      fun same => absurd (beq_iff_eq.mpr same) newline⟩

/-- Quotes with escapes are made of double marks. -/
theorem mark_of_hasEscapes (allowed : quotes.hasEscapes = true) : quotes.mark = '"' := by
  cases quotes with
  | basic | longBasic => rfl
  | literal | longLiteral => cases allowed

/-- A mark without an escape in front is written for a mark, behind fewer marks than may stand in a row. -/
theorem exists_of_writeEscaped_eq_mark (allowed : quotes.hasEscapes = true) {run : Nat}
    (begins : quotes.writeEscaped run text = '"' :: written) :
    run < quotes.freeMarks ∧ ∃ rest, text = '"' :: rest ∧ written = quotes.writeEscaped (run + 1) rest := by
  -- A mark is written bare only while fewer than so many stand in a row.
  cases text with
  | nil => cases begins
  | cons c rest =>
    rw [writeEscaped] at begins
    by_cases same : c = '"'
    · subst same
      rw [if_pos (beq_self_eq_true _)] at begins
      split at begins
      · rename_i free
        exact ⟨free, rest, rfl, (List.cons.inj begins).2.symm⟩
      · exact absurd (List.cons.inj begins).1 (by decide)
    -- Another character is written by an escape or as itself, and neither begins with the mark.
    · rw [if_neg (by simpa using same)] at begins
      split at begins
      · rename_i escape found
        obtain ⟨code, rfl, -⟩ := exists_escapes_of_escapeOf? allowed found
        exact absurd (List.cons.inj begins).1 (by decide)
      · exact absurd (List.cons.inj begins).1 same

/-- A text that is written with escapes spells the text. -/
theorem spells_writeEscaped (allowed : quotes.hasEscapes = true) (text : List Char) (run : Nat) :
    Spells quotes (quotes.writeEscaped run text) text := by
  have own := mark_of_hasEscapes allowed
  -- The marks in a row so far only decide which of the next ones is escaped, so any number will do.
  induction text generalizing run with
  | nil => exact .nil
  | cons c rest ih =>
    rw [writeEscaped]
    by_cases same : c = '"'
    · subst same
      rw [if_pos (beq_self_eq_true _)]
      split
      · -- Only long texts have free marks, and a third one in a row is none of them.
        rename_i free
        have long : quotes.isLong = true := by
          by_contra short
          simp [freeMarks, short] at free
        rw [← own]
        refine .mark long ?_ (ih (run + 1))
        rintro behind marks
        rw [own] at marks
        obtain ⟨-, more, rfl, next⟩ := exists_of_writeEscaped_eq_mark allowed marks
        obtain ⟨third, -⟩ := exists_of_writeEscaped_eq_mark allowed next.symm
        simp only [freeMarks, long, if_true] at third
        omega
      · exact .escape (escapes_of_simpleEscape? allowed rfl) (ih 0)
    · rw [if_neg (by simpa using same)]
      split
      · rename_i escape found
        obtain ⟨code, rfl, escapes⟩ := exists_escapes_of_escapeOf? allowed found
        exact .escape escapes (ih 0)
      · rename_i plain
        exact .plain (shows_of_escapeOf? (by rwa [own]) plain) (ih 0)

/-! ### Written texts -/

/-- What is written between the quotes. -/
def inside (quotes : Quotes) (text : List Char) : List Char :=
  if quotes.hasEscapes then quotes.writeEscaped 0 text else text

/-- What is written between the quotes that a text is given spells the text. -/
theorem spells_inside (text : List Char) : Spells (choose text) ((choose text).inside text) text := by
  -- Quotes without escapes are chosen only when they can hold the text.
  have chosen : (choose text).hasEscapes = false → (choose text).suits text = true := by
    unfold choose
    split
    · rename_i found
      exact fun _ => by simpa using List.find?_some found
    · split <;> exact fun plain => absurd plain (by decide)
  rw [inside]
  split
  · rename_i allowed
    exact spells_writeEscaped allowed text 0
  · rename_i plain
    have plain : (choose text).hasEscapes = false := by simpa using plain
    exact spells_of_suits plain (chosen plain)

/-- On one line nothing begins with a mark but the end of the text. -/
theorem Spells.ne_mark_of_isShort (spells : Spells quotes written text) (short : quotes.isLong = false)
    (behind : List Char) : written ≠ quotes.mark :: behind := by
  cases spells with
  | nil => simp
  | plain shows_ later => exact fun same => shows_.noMark (List.cons.inj same).1
  | mark long few later => simp [short] at long
  | escape escapes later => exact fun same => mark_ne_backslash quotes (List.cons.inj same).1.symm

/-- What begins with another character does not begin with an end of line. -/
theorem pastNewline?_cons (noFeed : c ≠ '\n') (noReturn : c ≠ '\r') (rest : List Char) :
    pastNewline? (c :: rest) = none := by
  -- Breaks begin with a line feed or with a return.
  unfold pastNewline?
  split
  · rename_i same
    exact absurd (List.cons.inj same).1 noFeed
  · rename_i same
    exact absurd (List.cons.inj same).1 noReturn
  · rfl

/-- What spells a text without ends of lines does not begin with one. -/
theorem Spells.pastNewline?_eq_none (spells : Spells quotes written text) (oneLine : '\n' ∉ text)
    (rest : List Char) : pastNewline? (written ++ (quotes.fence ++ rest)) = none := by
  -- Marks, backslashes and characters that are shown are no ends of lines.
  have noMark : ∀ more, pastNewline? (quotes.mark :: more) = none :=
    pastNewline?_cons (by cases quotes <;> decide) (by cases quotes <;> decide)
  cases spells with
  | nil => cases quotes <;> exact noMark _
  | @plain c written text shows_ later =>
    have noFeed : c ≠ '\n' := fun same => oneLine (by simp [same])
    have noReturn : c ≠ '\r' := by
      rintro rfl
      exact absurd shows_.visible (by decide)
    exact pastNewline?_cons noFeed noReturn _
  | mark long few later => exact noMark _
  | escape escapes later => exact pastNewline?_cons (by decide) (by decide) _

/-- A mark that two more do not follow opens a text on one line. -/
theorem opening?_of_isShort (short : quotes.isLong = false)
    (few : ∀ behind, rest ≠ quotes.mark :: quotes.mark :: behind) :
    opening? (quotes.mark :: rest) = some (quotes, rest) := by
  -- Three marks in a row would open a long text, so they are ruled out first.
  unfold opening?
  split
  · rename_i behind same
    obtain ⟨own, rfl⟩ := List.cons.inj same
    exact absurd (by rw [own]) (few behind)
  · rename_i behind same
    obtain ⟨own, rfl⟩ := List.cons.inj same
    exact absurd (by rw [own]) (few behind)
  · cases quotes with
    | basic | literal => rfl
    | longBasic | longLiteral => cases short

/-- Three marks open a long text, which starts behind an end of line if there is one. -/
theorem opening?_of_isLong (long : quotes.isLong = true) (rest : List Char) :
    opening? (quotes.fence ++ rest) = some (quotes, (pastNewline? rest).getD rest) := by
  cases quotes with
  | basic | literal => cases long
  | longBasic | longLiteral => rfl

/-- A text that is put between quotes reads back as the text. -/
theorem readText_write (text : List Char) (ends : rest.head? ≠ some (choose text).mark) :
    readText ((choose text).write text ++ rest) = some (String.ofList text, rest) := by
  have spells := spells_inside text
  have read := spells.readBody_eq ends
  generalize choose text = quotes at *
  have written_eq : quotes.write text = quotes.fence ++
      (if quotes.isLong && text.contains '\n' then ['\n'] else []) ++ quotes.inside text ++ quotes.fence := rfl
  -- The quotes open as they were written, and the body begins behind them.
  have opens : opening? (quotes.write text ++ rest) =
      some (quotes, quotes.inside text ++ (quotes.fence ++ rest)) := by
    cases long : quotes.isLong with
    | false =>
      -- An empty text has one more mark, but not two.
      have few : ∀ behind, quotes.inside text ++ (quotes.mark :: rest) ≠
          quotes.mark :: quotes.mark :: behind := by
        intro behind same
        cases written : quotes.inside text with
        | nil =>
          rw [written, List.nil_append] at same
          exact ends (by rw [(List.cons.inj same).2, List.head?_cons])
        | cons first more =>
          rw [written, List.cons_append] at same
          exact spells.ne_mark_of_isShort long more (by rw [written, (List.cons.inj same).1])
      have opens := opening?_of_isShort long few
      simpa only [written_eq, long, fence_of_isShort long, Bool.false_and, Bool.false_eq_true, if_false,
        List.nil_append, List.singleton_append, List.append_assoc, List.cons_append] using opens
    | true =>
      have opens := opening?_of_isLong long
      by_cases several : '\n' ∈ text
      · -- The text starts on a line of its own.
        have opens := opens ('\n' :: (quotes.inside text ++ (quotes.fence ++ rest)))
        simpa [written_eq, long, several, pastNewline?] using opens
      · have opens := opens (quotes.inside text ++ (quotes.fence ++ rest))
        rw [spells.pastNewline?_eq_none several rest, Option.getD_none] at opens
        simpa [written_eq, long, several] using opens
  rw [readText, readQuotedBy, opens]
  simp [read]

end UdsCatalog.Toml.Quotes
