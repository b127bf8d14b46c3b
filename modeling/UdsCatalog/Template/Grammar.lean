import UdsCatalog.Template.Token

/-!
Expressions from text. Of several ways to read a part the first that fits is taken for good, so their
order is part of the grammar. What stands between parentheses is read by a reader that is passed down,
one for each level of nesting.
-/

namespace UdsCatalog.Template

open Text (Reads past? firstOf)

/-- Readers for what stands between parentheses. -/
structure Inner where
  condition : Reads Expression
  list : Reads Expression
  arithmetic : Reads Core

/-- Reads as many parts as fit, each behind a gap. The number bounds how many there are. -/
def readMany {α : Type} (part : Reads α) : Nat → List Char → List α × List Char
  | 0, chars => ([], chars)
  | room + 1, chars =>
    -- A gap behind the last part is not taken, for no part follows it.
    match part (pastGap chars) with
    | none => ([], chars)
    | some (found, rest) =>
      let (more, rest) := readMany part room rest
      (found :: more, rest)

/-- Joins operands from the left; strong operators bind tighter than the others. -/
def climb {α ω : Type} (strong : ω → Bool) (join : α → ω → α → α) :
    Option (α × ω) → α → List (ω × α) → α
  | none, last, [] => last
  | some (left, op), last, [] => join left op last
  | outer, left, (op, right) :: rest =>
    -- The operator takes the operand right away, and the weak one outside waits.
    if strong op then climb strong join outer (join left op right) rest
    else
      match outer with
      | none => climb strong join (some (left, op)) right rest
      -- Two weak operators: the one that waited is joined first.
      | some (far, farOp) => climb strong join (some (join far farOp left, op)) right rest

/-- Reads an arithmetic operator. -/
def readMathOp : Reads MathOp
  | '+' :: rest => some (.plus, rest)
  | '-' :: rest => some (.minus, rest)
  | '*' :: rest => some (.times, rest)
  | '/' :: rest => some (.over, rest)
  | '%' :: rest => some (.modulo, rest)
  | _ => none

/-- Products bind tighter than sums. -/
def MathOp.isStrong : MathOp → Bool
  | .plus | .minus => false
  | .times | .over | .modulo => true

/-- Reads an operator that compares. -/
def readComparison : Reads LogicOp
  | '=' :: '=' :: rest => some (.equal, rest)
  | '!' :: '=' :: rest => some (.unequal, rest)
  -- Signs of two characters go first, as each begins with one of the shorter ones.
  | '<' :: '=' :: rest => some (.atMost, rest)
  | '>' :: '=' :: rest => some (.atLeast, rest)
  | '>' :: rest => some (.greater, rest)
  | '<' :: rest => some (.less, rest)
  | _ => none

/-- Reads an operator between conditions, with the gap that must follow. -/
def readConnective (chars : List Char) : Option (LogicOp × List Char) :=
  match pastWord? ['o', 'r'] chars with
  | some rest => some (.either, rest)
  | none =>
    match pastWord? ['a', 'n', 'd'] chars with
    | some rest => some (.both, rest)
    | none => none

/-- Reads the words of truth values. A word that goes on is cut there. -/
def readBool (chars : List Char) : Option (Core × List Char) :=
  [("true", true), ("false", false), ("True", true), ("False", false)].findSome? fun (word, value) =>
    -- Nothing is asked about what follows, so a name that begins so is never read whole.
    (past? word.toList chars).map fun rest => (.bool value, rest)

/-- Reads a named argument. -/
def readArgument (inner : Inner) (chars : List Char) : Option ((String × Expression) × List Char) := do
  let (name, rest) ← readName chars
  let rest ← past? ['='] (pastGap rest)
  -- A list is no condition, and is tried last.
  let (value, rest) ← firstOf inner.condition inner.list (pastGap rest)
  return ((name, value), rest)

/-- Reads a further argument behind a comma. -/
def readFurtherArgument (inner : Inner) (chars : List Char) :
    Option ((String × Expression) × List Char) := do
  readArgument inner (pastGap (← past? [','] chars))

/-- Of arguments with the same name the last one counts. -/
def lastOfEach {α : Type} : List (String × α) → List (String × α)
  | [] => []
  | (name, value) :: rest =>
    -- It stays where the last one stood.
    if rest.any fun (other, _) => other == name then lastOfEach rest
    else (name, value) :: lastOfEach rest

/-- Reads named arguments between parentheses. A comma may stand behind the last. -/
def readCall (inner : Inner) (chars : List Char) :
    Option ((String × List (String × Expression)) × List Char) := do
  let (name, rest) ← readName chars
  let rest := pastGap (← past? ['('] (pastGap rest))
  match readArgument inner rest with
  -- Without an argument there may be no comma either.
  | none => return ((name, []), ← past? [')'] rest)
  | some (argument, rest) =>
    let (more, rest) := readMany (readFurtherArgument inner) rest.length rest
    let rest := pastGap rest
    -- A trailing comma is dropped.
    let rest := (past? [','] rest).getD rest
    return ((name, lastOfEach (argument :: more)), ← past? [')'] (pastGap rest))

/-- Reads a filter behind its bar. -/
def readFilter (inner : Inner) (chars : List Char) : Option (Filter × List Char) := do
  let rest := pastGap (← past? ['|'] chars)
  match readCall inner rest with
  | some ((name, arguments), rest) => return (.mk name arguments, rest)
  -- Without parentheses the filter has no arguments.
  | none =>
    let (name, rest) ← readName rest
    return (.mk name [], rest)

/-- Reads the filters behind a core. -/
def withFilters (inner : Inner) (core : Core) (rest : List Char) : Expression × List Char :=
  let (filters, rest) := readMany (readFilter inner) rest.length rest
  (.mk core false filters, rest)

/-- Reads a call as a core. -/
def readCallCore (inner : Inner) (chars : List Char) : Option (Core × List Char) :=
  (readCall inner chars).map fun ((name, arguments), rest) => (.call name arguments, rest)

/-- Reads a reference as a core. -/
def readReferenceCore (chars : List Char) : Option (Core × List Char) :=
  (readReference chars).map fun (reference, rest) => (.reference reference, rest)

/-- Reads a text as a core. -/
def readTextCore (chars : List Char) : Option (Core × List Char) :=
  (readQuoted chars).map fun ((_, value), rest) => (.text value, rest)

/-- Reads an operand of arithmetic. -/
def readOperand (inner : Inner) (chars : List Char) : Option (Core × List Char) :=
  let nested : Option (Core × List Char) := do
    let rest ← past? ['('] chars
    let (core, rest) ← inner.arithmetic (pastGap rest)
    return (core, ← past? [')'] (pastGap rest))
  match nested with
  | some found => some found
  -- The order is a decision: a call would begin like a reference, and a truth value like both.
  | none =>
    firstOf readBool (firstOf (readCallCore inner) (firstOf readReferenceCore readNumber)) chars

/-- Reads an operator and what stands behind it. -/
def readOperation {ω α : Type} (op : Reads ω) (operand : Reads α) : Reads (ω × α) := fun chars => do
  let (op, rest) ← op chars
  let (value, rest) ← operand (pastGap rest)
  return ((op, value), rest)

/-- Reads operands with arithmetic operators between them. -/
def readArithmetic (inner : Inner) (chars : List Char) : Option (Core × List Char) := do
  let (first, rest) ← readOperand inner chars
  let (more, rest) := readMany (readOperation readMathOp (readOperand inner)) rest.length rest
  -- Operands of arithmetic are cores, so filters only stand behind the whole.
  let join (left : Core) (op : MathOp) (right : Core) := Core.math left.bare op right.bare
  return (climb MathOp.isStrong join none first more, rest)

/-- Reads arithmetic with filters behind it. -/
def readFiltered (inner : Inner) (chars : List Char) : Option (Expression × List Char) := do
  let (core, rest) ← readArithmetic inner chars
  return withFilters inner core rest

/-- Reads a part of a joined text. -/
def readPart (inner : Inner) : Reads Core :=
  -- Here numbers go in front of references, and truth values are not read at all.
  firstOf (readCallCore inner) (firstOf readNumber (firstOf readTextCore readReferenceCore))

/-- Reads a further part of a joined text. -/
def readFurtherPart (inner : Inner) (chars : List Char) : Option (Core × List Char) := do
  readPart inner (pastGap (← past? ['~'] chars))

/-- Reads at least two parts of a joined text. -/
def readJoined (inner : Inner) (chars : List Char) : Option (Core × List Char) := do
  let (first, rest) ← readPart inner chars
  match readMany (readFurtherPart inner) rest.length rest with
  -- A single part is no joined text, and other readers try it.
  | ([], _) => none
  | (more, rest) => return (.ofParts (first :: more), rest)

/-- Reads a text, joined or plain, with filters behind it. -/
def readTextual (inner : Inner) (chars : List Char) : Option (Expression × List Char) := do
  let (core, rest) ← firstOf (readJoined inner) readTextCore chars
  return withFilters inner core rest

/-- Reads filtered values with arithmetic operators between them. -/
def readComparand (inner : Inner) (chars : List Char) : Option (Expression × List Char) := do
  let (first, rest) ← readFiltered inner chars
  let (more, rest) := readMany (readOperation readMathOp (readFiltered inner)) rest.length rest
  let join (left : Expression) (op : MathOp) (right : Expression) := (Core.math left op right).bare
  return (climb MathOp.isStrong join none first more, rest)

/-- Reads a value, or two with a comparison between them. -/
def readCompared (inner : Inner) (chars : List Char) : Option (Expression × List Char) := do
  -- Texts go first. A comparison holds two values, and no chain of them.
  let side := firstOf (readTextual inner) (readComparand inner)
  let (left, rest) ← side chars
  match readOperation readComparison side (pastGap rest) with
  | some ((op, right), rest) => return ((Core.logic left op right).bare, rest)
  | none => return (left, rest)

/-- The word in front of what is negated. -/
def negationWord : List Char := ['n', 'o', 't']

/-- Reads items between brackets. A comma may stand behind the last. -/
def readItems (item : Reads Expression) : Nat → List Char → List Expression × List Char
  | 0, chars => ([], chars)
  | room + 1, chars =>
    match item (pastGap chars) with
    | none => ([], chars)
    | some (found, rest) =>
      match past? [','] (pastGap rest) with
      -- Without a comma the list must end.
      | none => ([found], rest)
      | some rest =>
        let (more, rest) := readItems item room rest
        (found :: more, rest)

/-- Reads a list of items with filters behind it. -/
def readListOf (inner : Inner) (item : Reads Expression) (chars : List Char) :
    Option (Expression × List Char) := do
  let rest ← past? ['['] chars
  let (items, rest) := readItems item rest.length rest
  let rest ← past? [']'] (pastGap rest)
  return withFilters inner (.list items) rest

/-- Reads a condition on a container. Lists are read by the given reader. -/
def readMembership (inner : Inner) (list : Reads Expression) (chars : List Char) :
    Option (Expression × List Char) := do
  let (value, rest) ← firstOf (readTextual inner) (readFiltered inner) chars
  let rest := pastGap rest
  -- This negation stands behind the value, and negates the condition only.
  let (negated, rest) := match pastWord? negationWord rest with
    | some rest => (true, pastGap rest)
    | none => (false, rest)
  let rest := pastGap (← past? ['i', 'n'] rest)
  -- Containers have no filters, unless they are texts or lists.
  let bare : Reads Expression := fun chars =>
    (readReferenceCore chars).map fun (core, rest) => (core.bare, rest)
  let (container, rest) ← firstOf (readTextual inner) (firstOf list bare) rest
  return ((Core.among value negated container).bare, rest)

/-- Reads a condition without connectives. Lists are read by the given reader. -/
def readSimpleWith (inner : Inner) (list : Reads Expression) (chars : List Char) :
    Option (Expression × List Char) :=
  let (negated, rest) := match pastWord? negationWord chars with
    | some rest => (true, pastGap rest)
    | none => (false, chars)
  -- A condition on a container begins like a comparison, so it goes first.
  match firstOf (readMembership inner list) (readCompared inner) rest with
  | some (condition, rest) => some (condition.withNegation negated, rest)
  | none => do
    let rest ← past? ['('] chars
    let (condition, rest) ← inner.condition (pastGap rest)
    -- A negation in front of parentheses is dropped, and so is one inside.
    return (condition.withNegation false, ← past? [')'] (pastGap rest))

/-- Lists nest as deep as the number says. -/
def readListWithin (inner : Inner) : Nat → Reads Expression
  | 0 => fun _ => none
  -- Only lists in lists need the number. All other nesting is passed down.
  | room + 1 => readListOf inner (readSimpleWith inner (readListWithin inner room))

/-- The number of opening brackets and parentheses, which bounds how deep a text nests. -/
def nesting (chars : List Char) : Nat := (chars.filter fun c => c == '(' || c == '[').length

/-- Reads a list of items with filters behind it. -/
def readList (inner : Inner) (chars : List Char) : Option (Expression × List Char) :=
  readListWithin inner (nesting chars + 1) chars

/-- Reads a condition without connectives. -/
def readSimple (inner : Inner) : Reads Expression := readSimpleWith inner (readList inner)

/-- Conjunctions bind tighter than disjunctions. -/
def LogicOp.isStrong : LogicOp → Bool
  | .both => true
  | _ => false

/-- Reads conditions with connectives between them. -/
def readCondition (inner : Inner) (chars : List Char) : Option (Expression × List Char) := do
  let (first, rest) ← readSimple inner chars
  let (more, rest) := readMany (readOperation readConnective (readSimple inner)) rest.length rest
  -- The connectives make conditions out of whole expressions.
  let join (left : Expression) (op : LogicOp) (right : Expression) := (Core.logic left op right).bare
  return (climb LogicOp.isStrong join none first more, rest)

/-- Readers for texts that nest as deep as the number says. -/
def Inner.within : Nat → Inner
  -- Not reached, as a text has no more levels than opening signs.
  | 0 => ⟨fun _ => none, fun _ => none, fun _ => none⟩
  | room + 1 =>
    let inner := within room
    ⟨readCondition inner, readList inner, readArithmetic inner⟩

/-- Readers for a text of any nesting. -/
def Inner.ofNesting (chars : List Char) : Inner := within (nesting chars + 1)

/-- Reads the value of a tag: a condition, or else a list. -/
def readValue (chars : List Char) : Option (Expression × List Char) :=
  let inner := Inner.ofNesting chars
  firstOf (readCondition inner) (readList inner) chars

/-- Reads the condition of a tag. -/
def readTest (chars : List Char) : Option (Expression × List Char) := readCondition (.ofNesting chars) chars

/-- Reads what a loop runs over: a filtered value, or else a list. -/
def readContainer (chars : List Char) : Option (Expression × List Char) :=
  let inner := Inner.ofNesting chars
  -- A condition is no container, so a comparison is not read here.
  firstOf (readFiltered inner) (readList inner) chars

end UdsCatalog.Template
