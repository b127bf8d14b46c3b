import UdsCatalog.Numeral.Shortest
import UdsCatalog.Template.Expression
import UdsCatalog.Text.Quoted

/-! Descriptions of expressions, as messages about impossible ones show them. -/

namespace UdsCatalog.Template

/-- The name of an arithmetic operator in descriptions. -/
def MathOp.description : MathOp → String
  | .plus => "Add"
  | .minus => "Sub"
  | .times => "Mul"
  | .over => "Div"
  | .modulo => "Modulo"

/-- The name of a logic operator in descriptions. -/
def LogicOp.description : LogicOp → String
  | .less => "Lt"
  | .atMost => "Lte"
  | .greater => "Gt"
  | .atLeast => "Gte"
  | .equal => "Eq"
  | .unequal => "NotEq"
  | .both => "And"
  | .either => "Or"

/-- A truth value as a word. -/
def boolWord (value : Bool) : String := if value then "true" else "false"

/-- Fields of a description between braces. -/
def braced (name : String) (fields : List String) : String :=
  name ++ " \x7b " ++ ", ".intercalate fields ++ " \x7d"

/-- A call with its described arguments. -/
def describeCall (name : String) (arguments : List String) : String :=
  braced "FunctionCall"
    ["name: " ++ Text.quoted name, "args: \x7b" ++ ", ".intercalate arguments ++ "\x7d"]

mutual

/-- A description of the structure of a core. -/
def Core.description : Core → String
  -- A reference and a text are told apart by their heads, since both show as quoted texts.
  | .text value => "String(" ++ Text.quoted value ++ ")"
  | .int value => "Int(" ++ toString value ++ ")"
  | .float value => "Float(" ++ value.describedText ++ ")"
  | .bool value => "Bool(" ++ boolWord value ++ ")"
  | .reference reference => "Ident(" ++ Text.quoted reference.text ++ ")"
  | .math left op right =>
    "Math(" ++ braced "MathExpr"
      ["lhs: " ++ left.description, "rhs: " ++ right.description, "operator: " ++ op.description] ++ ")"
  | .logic left op right =>
    "Logic(" ++ braced "LogicExpr"
      ["lhs: " ++ left.description, "rhs: " ++ right.description, "operator: " ++ op.description] ++ ")"
  | .call name arguments => "FunctionCall(" ++ describeCall name (describeArguments arguments) ++ ")"
  | .list items => "Array([" ++ ", ".intercalate (describeItems items) ++ "])"
  | .joined parts =>
    "StringConcat(" ++
      braced "StringConcat" ["values: [" ++ ", ".intercalate (describeParts parts) ++ "]"] ++ ")"
  | .among value negated container =>
    "In(" ++ braced "In"
      ["lhs: " ++ value.description, "rhs: " ++ container.description,
        "negated: " ++ boolWord negated] ++ ")"

/-- A description of the structure of an expression. -/
def Expression.description : Expression → String
  | .mk core negated filters =>
    braced "Expr"
      -- Filters and the negation are shown even when there are none.
      ["val: " ++ core.description, "negated: " ++ boolWord negated,
        "filters: [" ++ ", ".intercalate (describeFilters filters) ++ "]"]

/-- Descriptions of several filters. -/
def describeFilters : List Filter → List String
  | [] => []
  | .mk name arguments :: rest =>
    describeCall name (describeArguments arguments) :: describeFilters rest

/-- Descriptions of named arguments. -/
def describeArguments : List (String × Expression) → List String
  | [] => []
  | (name, value) :: rest => (Text.quoted name ++ ": " ++ value.description) :: describeArguments rest

/-- Descriptions of several expressions. -/
def describeItems : List Expression → List String
  | [] => []
  | item :: rest => item.description :: describeItems rest

/-- Descriptions of several cores. -/
def describeParts : List Core → List String
  | [] => []
  | part :: rest => part.description :: describeParts rest

end

/-- A part of a joined text, as messages about the joined text show it. -/
def Core.partText : Core → String
  | .text value => "'" ++ value ++ "'"
  | .reference target => target.text
  -- Numbers and calls have no text of their own here.
  | _ => "unknown"

/-- A joined text, as messages about it show it. -/
def joinedText (parts : List Core) : String := " ~ ".intercalate (parts.map Core.partText)

end UdsCatalog.Template
