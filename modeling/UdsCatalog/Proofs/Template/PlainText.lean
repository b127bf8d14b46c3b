import UdsCatalog.Proofs.Template.Plain

/-! Texts of plain templates: a test that tells whether a text is read as given plain nodes. -/

namespace UdsCatalog.Template

/-- An expression is the way by itself. -/
def Way.isExpression (way : Way) : Expression → Bool
  | .mk (.reference reference) false [] => way.text == reference.text
  | _ => false

mutual

/-- A node of a template is the plain node. -/
def Plain.isNode : Plain → Node → Bool
  | .text text, .text other => text == other
  | .put way, .output value => way.isExpression value
  | .each name way body, .each none other container inner [] =>
    name == other && way.isExpression container && areNodes body inner
  | .choose arms otherwise, .choose others last => areArms arms others && areNodes otherwise last
  | _, _ => false

/-- Nodes of a template are the plain nodes. -/
def areNodes : List Plain → List Node → Bool
  | [], [] => true
  | node :: rest, other :: others => node.isNode other && areNodes rest others
  | _, _ => false

/-- Arms of a template are the plain arms. -/
def areArms : List (Way × List Plain) → List (Expression × List Node) → Bool
  | [], [] => true
  | (way, body) :: rest, (condition, inner) :: others =>
    way.isExpression condition && areNodes body inner && areArms rest others
  | _, _ => false

end

/-- A text beside its characters. -/
abbrev KnownText := String × List Char

/-- The text of characters, which is not built anew when it is the known one: to compare long texts
takes longer than to compare their characters. -/
def KnownText.text (known : KnownText) (chars : List Char) : String :=
  if known.2 == chars then known.1 else String.ofList chars

/-- Reads pieces as templates are read, but knows a text. -/
def readKnowing (known : KnownText) : Nat → List Char → Option (List Piece)
  | _, [] => some []
  | 0, _ :: _ => none
  | room + 1, c :: chars =>
    match plainText (c :: chars) with
    | ([], _) => do
      let (piece, rest) ← readPiece (c :: chars)
      return piece :: (← readKnowing known room rest)
    | (text, rest) => do return .text (known.text text) :: (← readKnowing known room rest)

/-- A text of such characters is read as the plain nodes, and all their ways are named. -/
def readsAs (known : KnownText) (nodes : List Plain) (chars : List Char) : Bool :=
  let behind := pastComments chars.length chars
  areNamed nodes && (readParent behind).isNone &&
    match (readKnowing known behind.length behind).bind Nesting.start.nodes? with
    | some read => areNodes nodes read
    | none => false

/-- The text of characters is the same whether it is known or not. -/
theorem KnownText.text_eq {known : KnownText} (right : known.1 = String.ofList known.2)
    (chars : List Char) : known.text chars = String.ofList chars := by
  -- The known text is taken only for its own characters.
  rw [KnownText.text]
  split
  case isTrue same => rw [right, eq_of_beq same]
  case isFalse => rfl

/-- Where plain text stands in front, it is the next piece. -/
theorem readPiece_of_plainText {chars text rest : List Char}
    (plain : plainText chars = (text, rest)) (filled : text ≠ []) :
    readPiece chars = some (.text (String.ofList text), rest) := by
  unfold readPiece
  -- In front of an opening sign there is no text, which leaves the last way to read on.
  split
  case h_4 =>
    rw [plain]
    cases text with
    | nil => exact absurd rfl filled
    | cons => rfl
  all_goals simp_all [plainText]

/-- Pieces are read with a known text as without it. -/
theorem readKnowing_eq {known : KnownText} (right : known.1 = String.ofList known.2)
    (room : Nat) (chars : List Char) :
    readKnowing known room chars = readPieces room chars := by
  -- Text in front is the next piece on both sides, and any other piece is read alike.
  induction room generalizing chars with
  | zero => cases chars <;> rfl
  | succ room ih =>
    cases chars with
    | nil => rfl
    | cons c chars =>
      rw [readKnowing, readPieces]
      split
      case h_1 => simp only [ih]
      case h_2 text rest filled plain =>
        rw [readPiece_of_plainText plain filled, KnownText.text_eq right, ih]
        rfl

/-- The test on expressions is right. -/
theorem Way.eq_of_isExpression {way : Way} {value : Expression}
    (same : way.isExpression value = true) : value = way.expression := by
  -- Only a reference by itself passes, and it is made of the text of the way.
  unfold isExpression at same
  split at same
  · rw [beq_iff_eq] at same
    rw [expression, Core.bare, same]
  · cases same

mutual

/-- The test on a node is right. -/
theorem Plain.eq_of_isNode : {plain : Plain} → {node : Node} → plain.isNode node = true →
    node = plain.node
  | .text text, node, same => by
    cases node <;> simp only [Plain.isNode, Bool.false_eq_true, beq_iff_eq] at same
    rw [Plain.node, same]
  | .put way, node, same => by
    cases node <;> simp only [Plain.isNode, Bool.false_eq_true] at same
    rw [Plain.node, Way.eq_of_isExpression same]
  | .each name way body, node, same => by
    -- The loops of plain templates have no keys, and nothing stands in their place.
    cases node
    case each key other container inner empty =>
      cases key <;> cases empty <;>
        simp only [Plain.isNode, Bool.and_eq_true, beq_iff_eq, Bool.false_eq_true] at same
      obtain ⟨⟨rfl, container⟩, inner⟩ := same
      rw [Plain.node, Way.eq_of_isExpression container, eq_of_areNodes inner]
    all_goals simp only [Plain.isNode, Bool.false_eq_true] at same
  | .choose arms otherwise, node, same => by
    cases node <;> simp only [Plain.isNode, Bool.and_eq_true, Bool.false_eq_true] at same
    rw [Plain.node, eq_of_areArms same.1, eq_of_areNodes same.2]

/-- The test on nodes is right. -/
theorem eq_of_areNodes : {nodes : List Plain} → {others : List Node} →
    areNodes nodes others = true → others = nodesOf nodes
  | [], others, same => by
    cases others <;> simp only [areNodes, Bool.false_eq_true] at same
    rw [nodesOf]
  | node :: rest, others, same => by
    cases others <;> simp only [areNodes, Bool.and_eq_true, Bool.false_eq_true] at same
    rw [nodesOf, Plain.eq_of_isNode same.1, eq_of_areNodes same.2]

/-- The test on arms is right. -/
theorem eq_of_areArms : {arms : List (Way × List Plain)} →
    {others : List (Expression × List Node)} → areArms arms others = true → others = armsOf arms
  | [], others, same => by
    cases others <;> simp only [areArms, Bool.false_eq_true] at same
    rw [armsOf]
  | (way, body) :: rest, others, same => by
    rcases others with _ | ⟨⟨condition, inner⟩, others⟩
    · simp [areArms] at same
    · simp only [areArms, Bool.and_eq_true] at same
      rw [armsOf, Way.eq_of_isExpression same.1.1, eq_of_areNodes same.1.2, eq_of_areArms same.2]

end

/-- Plain nodes define no blocks. -/
theorem blocksOf_nodesOf (nodes : List Plain) : blocksOf (nodesOf nodes) = [] := by
  -- None of the four kinds of plain nodes is a block.
  induction nodes with
  | nil => rfl
  | cons node rest ih => cases node <;> simp [nodesOf, Plain.node, blocksOf, Node.blocks, ih]

/-- Plain nodes extend no template. -/
theorem parentOf_nodesOf (nodes : List Plain) : parentOf (nodesOf nodes) = none := by
  -- None of the four kinds of plain nodes extends a template.
  induction nodes with
  | nil => rfl
  | cons node rest ih => cases node <;> simpa [nodesOf, Plain.node, parentOf] using ih

/-- A text that passes the test is a template of plain nodes. -/
def IsPlain (nodes : List Plain) (text : String) : Prop :=
  ∃ known : KnownText, known.1 = String.ofList known.2 ∧ readsAs known nodes text.toList = true

namespace IsPlain

variable {nodes : List Plain} {text : String}

/-- All ways of a plain template are named. -/
theorem areNamed (plain : IsPlain nodes text) : areNamed nodes = true := by
  obtain ⟨known, -, read⟩ := plain
  simp only [readsAs, Bool.and_eq_true] at read
  exact read.1.1

/-- The text of a plain template is read as its nodes. -/
theorem ofText?_eq (plain : IsPlain nodes text) (name : String) :
    Tree.ofText? name text = some ⟨name, none, nodesOf nodes, []⟩ := by
  -- Nothing is extended, so the pieces are read and nested, and they nest to the plain nodes.
  obtain ⟨known, right, read⟩ := plain
  simp only [readsAs, readKnowing_eq right, Bool.and_eq_true, Option.isNone_iff_eq_none] at read
  obtain ⟨⟨-, noParent⟩, same⟩ := read
  split at same
  case h_2 => cases same
  case h_1 others nested =>
    rw [Option.bind_eq_some_iff] at nested
    obtain ⟨pieces, read, nested⟩ := nested
    have read : Piece.ofText? text = some pieces := by
      rw [Piece.ofText?, ← String.length_toList]
      simp only [noParent, read]
    rw [Tree.ofText?, read, Option.bind_eq_bind, Option.bind_some, nested,
      eq_of_areNodes same]
    simp [blocksOf_nodesOf, parentOf_nodesOf, hasTwice]

end IsPlain

end UdsCatalog.Template
