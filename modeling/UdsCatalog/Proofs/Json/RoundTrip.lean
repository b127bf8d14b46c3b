import Mathlib
import UdsCatalog.Json.Printer
import UdsCatalog.Json.Reader

/-!
Documents that are written on one line are read back as they were. Each part of a value leads the reader
on by a law of its own: texts character by character, numbers digit by digit, and arrays and objects
item by item.
-/

namespace UdsCatalog.Json

/-- Characters that lead on inside a part lead on in the whole that it is a part of. -/
theorem foldlM_of_part {σ τ : Type} {inner : σ → Char → Option σ} {outer : τ → Char → Option τ}
    (whole : σ → τ) (leads : ∀ state c next, inner state c = some next →
      outer (whole state) c = some (whole next)) {state final : σ} {chars : List Char}
    (read : chars.foldlM inner state = some final) :
    chars.foldlM outer (whole state) = some (whole final) := by
  -- The part moves on with every character, so its state stays quantified over.
  induction chars generalizing state with
  | nil =>
    obtain rfl : state = final := Option.some.inj read
    rfl
  | cons c rest ih =>
    obtain ⟨next, stepped, further⟩ := Option.bind_eq_some_iff.mp read
    rw [List.foldlM_cons, leads state c next stepped]
    exact ih further

/-! ### Texts -/

namespace Literal

/-- A text behind a further character that does not end it. -/
def next? (literal : Literal) (c : Char) : Option Literal :=
  match literal.step c with
  | .goOn next => some next
  | _ => none

/-- A text that leads on goes on. -/
theorem step_of_next? {literal next : Literal} {c : Char} (leads : literal.next? c = some next) :
    literal.step c = .goOn next := by
  rw [next?] at leads
  cases stepped : literal.step c <;> simp_all

/-- Each control character has an escape of its own. -/
theorem after_escapedChar_control (done : List Char) {code : Nat} (control : code < 0x20) :
    (escapedChar (Char.ofNat code)).toList.foldlM next? ⟨.plain, done⟩ =
      some ⟨.plain, Char.ofNat code :: done⟩ := by
  interval_cases code <;> rfl

/-- What is written for a character is read as this character. -/
theorem after_escapedChar (c : Char) (done : List Char) :
    (escapedChar c).toList.foldlM next? ⟨.plain, done⟩ = some ⟨.plain, c :: done⟩ := by
  by_cases control : c.toNat < 0x20
  · have code := after_escapedChar_control done control
    rwa [Char.ofNat_toNat] at code
  · by_cases quote : c = '"'
    · subst quote
      rfl
    by_cases slash : c = '\\'
    · subst slash
      rfl
    -- Every other character stands for itself.
    have above : ∀ other : Char, other.toNat < 0x20 → c ≠ other := by
      rintro other small rfl
      exact control small
    have noBackspace : c.toNat ≠ 8 := by omega
    have noFormFeed : c.toNat ≠ 12 := by omega
    simp [escapedChar, next?, step, push, quote, slash, control, above '\n' (by decide),
      above '\r' (by decide), above '\t' (by decide), noBackspace, noFormFeed]

/-- The characters that are written for a text. -/
def written (text : String) : List Char := text.toList.flatMap fun c => (escapedChar c).toList

/-- A whole text is read up to its closing quote. -/
theorem after_written (text : String) :
    (written text).foldlM next? start = some ⟨.plain, text.toList.reverse⟩ := by
  -- The characters that are done stand in reverse order.
  have general : ∀ chars done : List Char,
      (chars.flatMap fun c => (escapedChar c).toList).foldlM next? ⟨.plain, done⟩ =
        some ⟨.plain, chars.reverse ++ done⟩ := by
    intro chars
    induction chars with
    | nil => exact fun _ => rfl
    | cons c rest ih =>
      intro done
      rw [List.flatMap_cons, List.foldlM_append, after_escapedChar, List.reverse_cons, List.append_assoc]
      exact ih (c :: done)
  simpa [start, written] using general text.toList []

end Literal

/-- The text of a text, character by character. -/
theorem toList_textLiteral (text : String) :
    (textLiteral text).toList = '"' :: (Literal.written text ++ ['"']) := by
  simp [textLiteral, Literal.written, String.toList_join, List.flatMap_map]

/-! ### Numbers -/

namespace Numeral

/-- A number behind a further character that does not end it. -/
def next? (numeral : Numeral) (c : Char) : Option Numeral :=
  match numeral.step c with
  | .goOn next => some next
  | _ => none

/-- A number that leads on goes on. -/
theorem step_of_next? {numeral next : Numeral} {c : Char} (leads : numeral.next? c = some next) :
    numeral.step c = .goOn next := by
  rw [next?] at leads
  cases stepped : numeral.step c <;> simp_all

/-- The numeral of whole digits that have been read. -/
def ofWhole (digits : Nat) : Numeral :=
  ⟨if digits = 0 then .zero else .whole, false, digits, 0, false, 0⟩

/-- The digit that is written for a small number. -/
theorem decimalDigit?_digitChar {digit : Nat} (small : digit < 10) :
    decimalDigit? digit.digitChar = some digit := by
  interval_cases digit <;> rfl

/-- The digits of a number are read as this number. -/
theorem after_toDigits {number : Nat} (bound : number < digitBound) :
    ∃ digit rest, digit < 10 ∧ Nat.toDigits 10 number = digit.digitChar :: rest ∧
      rest.foldlM next? (ofDigit false digit) = some (ofWhole number) := by
  -- The last digit is taken off, and what is in front of it is a smaller number.
  induction number using Nat.strongRecOn with
  | _ number ih =>
    by_cases single : number < 10
    · -- One digit is all that is written.
      refine ⟨number, [], single, Nat.toDigits_of_lt_base single, ?_⟩
      by_cases zero : number = 0 <;> simp [ofDigit, ofWhole, zero]
    · obtain ⟨digit, rest, small, written, read⟩ := ih (number / 10) (by omega) (by omega)
      refine ⟨digit, rest ++ [(number % 10).digitChar], small, ?_, ?_⟩
      · rw [Nat.toDigits_of_base_le (by decide) (by omega), written, List.cons_append]
      · have front : number / 10 ≠ 0 := by omega
        have whole : number / 10 * 10 + number % 10 = number := by omega
        rw [List.foldlM_append, read, Option.bind_eq_bind, Option.bind_some, ofWhole, if_neg front]
        simp [next?, step, decimalDigit?_digitChar (Nat.mod_lt number (by decide)), whole, bound, ofWhole]
        omega

/-- A whole number ends where an item or a field does. -/
theorem step_ofWhole (number : Nat) {c : Char} (delimiter : c ∈ [',', ']', '\x7d']) :
    (ofWhole number).step c = .stop := by
  have noDigit : decimalDigit? c = none := by
    rcases (by simpa using delimiter : c = ',' ∨ c = ']' ∨ c = '\x7d') with rfl | rfl | rfl <;> rfl
  -- A zero ends its whole digits at once, and any other number where no digit follows.
  have stops : ∀ numeral : Numeral, numeral.afterWhole c = .stop := by
    rcases (by simpa using delimiter : c = ',' ∨ c = ']' ∨ c = '\x7d') with rfl | rfl | rfl <;>
      exact fun _ => rfl
  by_cases zero : number = 0 <;> simp [ofWhole, zero, step, noDigit, stops]

/-- A whole number is an integer. -/
theorem finish_ofWhole (number : Nat) : (ofWhole number).finish = .ok (Json.int number) := by
  by_cases zero : number = 0 <;> simp [ofWhole, zero, finish]

end Numeral

/-! ### Values -/

/-- A value without fractions that fits the reader: the arrays and objects in it nest at most so deep,
and the fields of each object stand in the order of their names. -/
def Plain (room : Nat) : Json → Prop
  | .null | .bool _ | .text _ => True
  | .number (.int whole) => 0 ≤ whole ∧ whole < Numeral.digitBound
  | .number (.float _) => False
  | .array items => 0 < room ∧ PlainItems (room - 1) items
  | .object fields =>
    0 < room ∧ (fields.map (·.1)).Pairwise (· < ·) ∧ PlainFields (room - 1) fields
where
  PlainItems (room : Nat) : List Json → Prop
    | [] => True
    | item :: rest => item.Plain room ∧ PlainItems room rest
  PlainFields (room : Nat) : List (String × Json) → Prop
    | [] => True
    | (_, value) :: rest => value.Plain room ∧ PlainFields room rest

/-- The items of an array fit when each of them does. -/
theorem plainItems_iff (room : Nat) (items : List Json) :
    Plain.PlainItems room items ↔ ∀ item ∈ items, item.Plain room := by
  induction items with
  | nil => simp [Plain.PlainItems]
  | cons item rest ih => rw [Plain.PlainItems, ih, List.forall_mem_cons]

namespace Reader

/-- The reader behind a further character that it does not object to. -/
def next? (reader : Reader) (c : Char) : Option Reader := (reader.step c).toOption

/-- A text that is read to its end is the document that the reader holds then. -/
theorem run_of_after {reader final : Reader} {chars : List Char} {value : Json} (position : Position)
    (read : chars.foldlM next? reader = some final) (ended : final.finish = .ok value) :
    reader.run position chars = .ok value := by
  -- The position only serves for errors, and there is none.
  induction chars generalizing reader position with
  | nil =>
    obtain rfl : reader = final := Option.some.inj read
    rw [run, ended]
  | cons c rest ih =>
    obtain ⟨next, stepped, further⟩ := Option.bind_eq_some_iff.mp read
    cases taken : reader.step c with
    | error objection => simp [next?, taken, Except.toOption] at stepped
    | ok other =>
      obtain rfl : other = next := by simpa [next?, taken, Except.toOption] using stepped
      rw [run, taken]
      exact ih (position.past c) further

variable {stack : List Open} {fields : List (String × Json)}

/-- Inside a text the reader moves on with it. -/
theorem after_text {literal next : Literal} {chars : List Char}
    (read : chars.foldlM Literal.next? literal = some next) :
    chars.foldlM next? ⟨.text literal, stack, fields⟩ = some ⟨.text next, stack, fields⟩ := by
  refine foldlM_of_part (fun literal => (⟨.text literal, stack, fields⟩ : Reader)) ?_ read
  intro literal c next leads
  simp [next?, step, Literal.step_of_next? leads, Except.toOption]

/-- Inside the name of a field it does so as well. -/
theorem after_name {literal next : Literal} {chars : List Char}
    (read : chars.foldlM Literal.next? literal = some next) :
    chars.foldlM next? ⟨.name literal, stack, fields⟩ = some ⟨.name next, stack, fields⟩ := by
  refine foldlM_of_part (fun literal => (⟨.name literal, stack, fields⟩ : Reader)) ?_ read
  intro literal c next leads
  simp [next?, step, Literal.step_of_next? leads, Except.toOption]

/-- Inside a number it moves on with the number. -/
theorem after_number {numeral next : Numeral} {chars : List Char}
    (read : chars.foldlM Numeral.next? numeral = some next) :
    chars.foldlM next? ⟨.number numeral, stack, fields⟩ = some ⟨.number next, stack, fields⟩ := by
  refine foldlM_of_part (fun numeral => (⟨.number numeral, stack, fields⟩ : Reader)) ?_ read
  intro numeral c next leads
  simp [next?, step, Numeral.step_of_next? leads, Except.toOption]

/-- The reader stands behind a value: it has seen its end, or a number ends with what comes next. -/
inductive Behind (value : Json) (stack : List Open) : Reader → Prop
  | whole (fields : List (String × Json)) : Behind value stack ⟨.behind value, stack, fields⟩
  | number (number : Nat) (same : value = Json.int number) (fields : List (String × Json)) :
    Behind value stack ⟨.number (.ofWhole number), stack, fields⟩
  | word (fields : List (String × Json)) : Behind value stack ⟨.word [] value, stack, fields⟩

namespace Behind

variable {value : Json} {reader : Reader}

/-- A delimiter behind a value is read as such. -/
theorem step_eq (behind : Behind value stack reader) {c : Char} (delimiter : c ∈ [',', ']', '\x7d']) :
    ∃ task fields, reader.step c = continueBehind ⟨task, stack, fields⟩ value c := by
  -- A number and a word end here and hand the delimiter on, where a whole value takes it itself.
  have noGap : isGap c = false := by
    rcases (by simpa using delimiter : c = ',' ∨ c = ']' ∨ c = '\x7d') with rfl | rfl | rfl <;> rfl
  cases behind with
  | whole fields => exact ⟨.behind value, fields, by simp [step, stepBehind, noGap]⟩
  | number number same fields =>
    refine ⟨.number (.ofWhole number), fields, ?_⟩
    simp [step, Numeral.step_ofWhole number delimiter, Numeral.finish_ofWhole, stepBehind, noGap, same]
  | word fields => exact ⟨.word [] value, fields, by simp [step, stepBehind, noGap]⟩

/-- Outside of all arrays and objects the value is the document. -/
theorem finish (behind : Behind value [] reader) : reader.finish = .ok value := by
  cases behind with
  | whole fields => rfl
  | number number same fields =>
    simp [Reader.finish, Numeral.finish_ofWhole, Except.bind, endBehind, same]
  | word fields => rfl

end Behind

/-- A reader that expects a value reads its text and stands behind it then. The first character is no
gap and does not close an array. -/
def Reads (value : Json) (reader : Reader) : Prop :=
  ∃ first rest next final, value.compact.toList = first :: rest ∧ isGap first = false ∧
    first ≠ ']' ∧ reader.beginValue first = .ok next ∧ rest.foldlM next? next = some final ∧
    Behind value reader.stack final

/-- The name of a field leads to its value. -/
theorem after_fieldName (name : String) (done : List (String × Json)) :
    (Literal.written name ++ ['"', ':']).foldlM next? ⟨.name .start, stack, done⟩ =
      some ⟨.value, .fields done name :: stack, []⟩ := by
  rw [List.foldlM_append, after_name (Literal.after_written name)]
  simp [next?, step, Literal.step, isGap, Except.toOption]

/-- A text is read. -/
theorem reads_text (text : String) (reader : Reader) : Reads (.text text) reader := by
  obtain ⟨task, stack, fields⟩ := reader
  refine ⟨'"', _, ⟨.text .start, stack, fields⟩, ⟨.behind (.text text), stack, fields⟩,
    toList_textLiteral text, rfl, by decide, rfl, ?_, .whole fields⟩
  rw [List.foldlM_append, after_text (Literal.after_written text)]
  simp [next?, step, Literal.step, Except.toOption]

/-- A whole number is read. -/
theorem reads_whole {number : Nat} (bound : number < Numeral.digitBound) (reader : Reader) :
    Reads (Json.int number) reader := by
  obtain ⟨task, stack, fields⟩ := reader
  -- A whole number is written digit by digit, and the first digit begins the value.
  obtain ⟨digit, rest, small, written, read⟩ := Numeral.after_toDigits bound
  have begins : beginValue ⟨task, stack, fields⟩ digit.digitChar =
      .ok ⟨.number (.ofDigit false digit), stack, fields⟩ := by
    interval_cases digit <;> rfl
  have noGap : isGap digit.digitChar = false ∧ digit.digitChar ≠ ']' := by
    interval_cases digit <;> decide
  have digits : (Json.int number).compact.toList = digit.digitChar :: rest := by
    rw [← written, Json.int, compact, JsonNumber.toText]
    show (toString number).toList = _
    rw [Nat.toString_eq_ofList_toDigits, String.toList_ofList]
  exact ⟨_, rest, _, _, digits, noGap.1, noGap.2, begins, after_number read, .number number rfl fields⟩

/-- A reader behind the start of a document, the name of a field or a gap reads a value. -/
theorem Reads.after_value {value : Json} (reads : Reads value ⟨.value, stack, fields⟩) :
    ∃ final, value.compact.toList.foldlM next? ⟨.value, stack, fields⟩ = some final ∧
      Behind value stack final := by
  obtain ⟨first, rest, next, final, written, noGap, -, begins, read, behind⟩ := reads
  refine ⟨final, ?_, behind⟩
  rw [written, List.foldlM_cons, next?]
  simp only [step, noGap, begins]
  exact read

/-- A reader behind a comma in an array reads a value. -/
theorem Reads.after_nextItem {value : Json} (reads : Reads value ⟨.nextItem, stack, fields⟩) :
    ∃ final, value.compact.toList.foldlM next? ⟨.nextItem, stack, fields⟩ = some final ∧
      Behind value stack final := by
  obtain ⟨first, rest, next, final, written, noGap, noEnd, begins, read, behind⟩ := reads
  refine ⟨final, ?_, behind⟩
  rw [written, List.foldlM_cons, next?]
  simp only [step, noGap, beq_false_of_ne noEnd, begins]
  exact read

/-- A reader behind an opening bracket reads a value, which is the first of its array. -/
theorem Reads.after_firstItem {value : Json} (reads : Reads value ⟨.firstItem, .list [] :: stack, fields⟩) :
    ∃ final, value.compact.toList.foldlM next? ⟨.firstItem, stack, fields⟩ = some final ∧
      Behind value (.list [] :: stack) final := by
  obtain ⟨first, rest, next, final, written, noGap, noEnd, begins, read, behind⟩ := reads
  refine ⟨final, ?_, behind⟩
  rw [written, List.foldlM_cons, next?]
  simp only [step, noGap, beq_false_of_ne noEnd, begins]
  exact read

/-- What is written behind the first of several texts with commas between them. -/
def furtherTexts (texts : List String) : List Char := texts.flatMap fun text => ',' :: text.toList

/-- Texts with commas between them. -/
theorem intercalate_eq (first : List Char) (texts : List String) :
    [','].intercalate (first :: texts.map String.toList) = first ++ furtherTexts texts := by
  induction texts generalizing first with
  | nil => simp [furtherTexts]
  | cons second rest ih =>
    rw [List.map_cons, List.intercalate_cons_of_ne_nil (by simp), ih]
    simp [furtherTexts]

/-- A field whose name comes behind all others is put behind them. -/
theorem insertField_of_lt {name : String} {done : List (String × Json)}
    (largest : ∀ other ∈ done.map (·.1), other < name) (value : Json) :
    insertField name value done = done ++ [(name, value)] := by
  -- The new name is greater than each that is there, so it goes past all of them.
  induction done with
  | nil => rfl
  | cons field rest ih =>
    obtain ⟨other, kept⟩ := field
    obtain ⟨smaller, later⟩ := List.forall_mem_cons.mp largest
    have apart : (name == other) = false := beq_false_of_ne (ne_of_gt smaller)
    rw [insertField, if_neg (lt_asymm smaller), apart, if_neg Bool.false_ne_true, ih later,
      List.cons_append]

/-- Behind a comma in an array the next item begins. -/
theorem Behind.step_nextItem {value : Json} {done : List Json} {reader : Reader}
    (behind : Behind value (.list done :: stack) reader) :
    ∃ fields, reader.step ',' = .ok ⟨.nextItem, .list (value :: done) :: stack, fields⟩ := by
  obtain ⟨task, fields, step⟩ := behind.step_eq (c := ',') (by decide)
  exact ⟨fields, step.trans rfl⟩

/-- A bracket closes the array. -/
theorem Behind.step_closeList {value : Json} {done : List Json} {reader : Reader}
    (behind : Behind value (.list done :: stack) reader) :
    ∃ fields, reader.step ']' = .ok ⟨.behind (.array (value :: done).reverse), stack, fields⟩ := by
  obtain ⟨task, fields, step⟩ := behind.step_eq (c := ']') (by decide)
  exact ⟨fields, step.trans rfl⟩

/-- Behind a comma in an object the next name begins. -/
theorem Behind.step_nextName {name : String} {value : Json} {done : List (String × Json)}
    {reader : Reader} (behind : Behind value (.fields done name :: stack) reader) :
    reader.step ',' = .ok ⟨.nextName, stack, insertField name value done⟩ := by
  obtain ⟨task, fields, step⟩ := behind.step_eq (c := ',') (by decide)
  exact step.trans rfl

/-- A brace closes the object. -/
theorem Behind.step_closeObject {name : String} {value : Json} {done : List (String × Json)}
    {reader : Reader} (behind : Behind value (.fields done name :: stack) reader) :
    ∃ fields, reader.step '\x7d' =
      .ok ⟨.behind (.object (insertField name value done)), stack, fields⟩ := by
  obtain ⟨task, fields, step⟩ := behind.step_eq (c := '\x7d') (by decide)
  exact ⟨fields, step.trans rfl⟩

mutual

/-- A value that fits the reader is read. -/
theorem reads_of_plain : ∀ (value : Json) (room : Nat), value.Plain room → ∀ reader : Reader,
    reader.stack.length + room = deepest → Reads value reader
  | .null, _, _, ⟨_, _, fields⟩, _ =>
    ⟨'n', ['u', 'l', 'l'], _, _, rfl, rfl, by decide, rfl, rfl, .word fields⟩
  | .bool true, _, _, ⟨_, _, fields⟩, _ =>
    ⟨'t', ['r', 'u', 'e'], _, _, rfl, rfl, by decide, rfl, rfl, .word fields⟩
  | .bool false, _, _, ⟨_, _, fields⟩, _ =>
    ⟨'f', ['a', 'l', 's', 'e'], _, _, rfl, rfl, by decide, rfl, rfl, .word fields⟩
  | .number (.int whole), _, plain, reader, _ => by
    obtain ⟨number, rfl⟩ := Int.eq_ofNat_of_zero_le plain.1
    exact reads_whole (by exact_mod_cast plain.2) reader
  | .text content, _, _, reader, _ => reads_text content reader
  | .array [], room, plain, ⟨task, stack, fields⟩, fits => by
    -- A value with room for one more level opens below the deepest one.
    have inside : stack.length < deepest := by
      have positive : 0 < room := plain.1
      simp only at fits
      omega
    refine ⟨'[', [']'], ⟨.firstItem, stack, fields⟩, _, rfl, rfl, by decide, ?_, rfl, .whole fields⟩
    show enter ⟨task, stack, fields⟩ .firstItem = _
    rw [enter, if_pos inside]
  | .array (first :: rest), room, plain, ⟨task, stack, fields⟩, fits => by
    obtain ⟨positive, plainFirst, plainRest⟩ := plain
    simp only at fits
    have inside : stack.length < deepest := by omega
    -- The first item is read, and all others behind it.
    obtain ⟨behindFirst, readFirst, standsFirst⟩ := (reads_of_plain first (room - 1) plainFirst
      ⟨.firstItem, .list [] :: stack, fields⟩ (by simp only [List.length_cons]; omega)).after_firstItem
    obtain ⟨final, readRest, stands⟩ := after_items rest (room - 1) plainRest stack (by omega)
      first [] behindFirst standsFirst
    refine ⟨'[', first.compact.toList ++ (furtherTexts (compact.compactItems rest) ++ [']']),
      ⟨.firstItem, stack, fields⟩, final, ?_, rfl, by decide, ?_, ?_, stands⟩
    · simp [compact, compact.compactItems, intercalate_eq]
    · show enter ⟨task, stack, fields⟩ .firstItem = _
      rw [enter, if_pos inside]
    · rw [List.foldlM_append, readFirst]
      exact readRest
  | .object [], room, plain, ⟨task, stack, fields⟩, fits => by
    have inside : stack.length < deepest := by
      have positive : 0 < room := plain.1
      simp only at fits
      omega
    refine ⟨'\x7b', ['\x7d'], ⟨.firstName, stack, fields⟩, _, rfl, rfl, by decide, ?_, rfl,
      .whole fields⟩
    show enter ⟨task, stack, fields⟩ .firstName = _
    rw [enter, if_pos inside]
  | .object ((name, first) :: rest), room, plain, ⟨task, stack, fields⟩, fits => by
    obtain ⟨positive, sorted, plainFirst, plainRest⟩ := plain
    simp only at fits
    have inside : stack.length < deepest := by omega
    -- The name of the first field leads to its value, and all other fields are read behind it.
    obtain ⟨behindFirst, readFirst, standsFirst⟩ := (reads_of_plain first (room - 1) plainFirst
      ⟨.value, .fields [] name :: stack, []⟩ (by simp only [List.length_cons]; omega)).after_value
    obtain ⟨final, readRest, stands⟩ := after_fields rest (room - 1) plainRest stack (by omega)
      name first [] [(name, first)] behindFirst standsFirst rfl sorted
    refine ⟨'\x7b', '"' :: ((Literal.written name ++ ['"', ':']) ++ (first.compact.toList ++
      (furtherTexts (compact.compactFields rest) ++ ['\x7d']))),
      ⟨.firstName, stack, fields⟩, final, ?_, rfl, by decide, ?_, ?_, stands⟩
    · simp [compact, compact.compactFields, intercalate_eq, toList_textLiteral]
    · show enter ⟨task, stack, fields⟩ .firstName = _
      rw [enter, if_pos inside]
    · show List.foldlM next? ⟨.name .start, stack, []⟩ _ = _
      rw [List.foldlM_append, after_fieldName]
      show List.foldlM next? ⟨.value, _, _⟩ _ = _
      rw [List.foldlM_append, readFirst]
      exact readRest

/-- Behind an item the rest of its array is read. -/
theorem after_items : ∀ (items : List Json) (room : Nat), Plain.PlainItems room items →
    ∀ stack : List Open, stack.length + 1 + room = deepest → ∀ (value : Json) (done : List Json)
      (reader : Reader), Behind value (.list done :: stack) reader →
      ∃ final, (furtherTexts (compact.compactItems items) ++ [']']).foldlM next? reader = some final ∧
        Behind (.array (done.reverse ++ value :: items)) stack final
  | [], _, _, stack, _, value, done, reader, behind => by
    obtain ⟨fields, step⟩ := behind.step_closeList
    refine ⟨_, ?_, .whole fields⟩
    simp [compact.compactItems, furtherTexts, next?, step, Except.toOption]
  -- The comma ends the value before, then the item is read, and the rest goes on behind it.
  | item :: rest, room, plain, stack, fits, value, done, reader, behind => by
    obtain ⟨plainItem, plainRest⟩ := plain
    obtain ⟨fields, step⟩ := behind.step_nextItem
    obtain ⟨behindItem, readItem, stands⟩ := (reads_of_plain item room plainItem
      ⟨.nextItem, .list (value :: done) :: stack, fields⟩
      (by simp only [List.length_cons]; omega)).after_nextItem
    obtain ⟨final, readRest, standsFinal⟩ := after_items rest room plainRest stack fits item
      (value :: done) behindItem stands
    refine ⟨final, ?_, by simpa using standsFinal⟩
    have written : furtherTexts (compact.compactItems (item :: rest)) ++ [']'] =
        ',' :: (item.compact.toList ++ (furtherTexts (compact.compactItems rest) ++ [']'])) := by
      simp [compact.compactItems, furtherTexts]
    rw [written, List.foldlM_cons, next?, step]
    show List.foldlM next? _ (item.compact.toList ++ _) = _
    rw [List.foldlM_append, readItem]
    exact readRest

/-- Behind a field the rest of its object is read. -/
theorem after_fields : ∀ (fields : List (String × Json)) (room : Nat),
    Plain.PlainFields room fields → ∀ stack : List Open, stack.length + 1 + room = deepest →
      ∀ (name : String) (value : Json) (done kept : List (String × Json)) (reader : Reader),
      Behind value (.fields done name :: stack) reader → insertField name value done = kept →
      ((kept ++ fields).map (·.1)).Pairwise (· < ·) →
      ∃ final, (furtherTexts (compact.compactFields fields) ++ ['\x7d']).foldlM next? reader = some final ∧
        Behind (.object (kept ++ fields)) stack final
  | [], _, _, stack, _, name, value, done, kept, reader, behind, inserted, _ => by
    -- The field that is still open is put to the others when the object closes.
    obtain ⟨fields, step⟩ := behind.step_closeObject
    rw [inserted] at step
    refine ⟨_, ?_, by simpa using .whole fields⟩
    simp [compact.compactFields, furtherTexts, next?, step, Except.toOption]
  | (next, further) :: rest, room, plain, stack, fits, name, value, done, kept, reader, behind,
      inserted, sorted => by
    obtain ⟨plainValue, plainRest⟩ := plain
    -- A comma puts it there, and the next name is read.
    have step := behind.step_nextName
    rw [inserted] at step
    obtain ⟨behindValue, readValue, stands⟩ := (reads_of_plain further room plainValue
      ⟨.value, .fields kept next :: stack, []⟩ (by simp only [List.length_cons]; omega)).after_value
    -- The name comes behind all names so far.
    have largest : ∀ other ∈ kept.map (·.1), other < next := by
      rw [List.map_append, List.pairwise_append] at sorted
      intro other member
      exact sorted.2.2 other member next (by simp)
    obtain ⟨final, readRest, standsFinal⟩ := after_fields rest room plainRest stack fits next further
      kept (kept ++ [(next, further)]) behindValue stands (insertField_of_lt largest further)
      (by simpa using sorted)
    refine ⟨final, ?_, by simpa using standsFinal⟩
    have written : furtherTexts (compact.compactFields ((next, further) :: rest)) ++ ['\x7d'] =
        ',' :: '"' :: ((Literal.written next ++ ['"', ':']) ++ (further.compact.toList ++
          (furtherTexts (compact.compactFields rest) ++ ['\x7d']))) := by
      simp [compact.compactFields, furtherTexts, toList_textLiteral]
    rw [written, List.foldlM_cons, next?, step]
    show List.foldlM next? ⟨.name .start, stack, kept⟩ _ = _
    rw [List.foldlM_append, after_fieldName]
    show List.foldlM next? ⟨.value, _, _⟩ _ = _
    rw [List.foldlM_append, readValue]
    exact readRest

end

end Reader

/-- A document that is written on one line is read back as it was. -/
theorem parse_compact {value : Json} (plain : value.Plain Reader.deepest) :
    parse value.compact = .ok value := by
  have reads : Reader.Reads value Reader.start :=
    Reader.reads_of_plain value Reader.deepest plain Reader.start (by simp [Reader.start])
  obtain ⟨final, read, behind⟩ := reads.after_value
  exact Reader.run_of_after _ read behind.finish

end UdsCatalog.Json
