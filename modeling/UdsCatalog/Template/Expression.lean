import UdsCatalog.Numeral.Binary64
import UdsCatalog.Template.Reference

/-! Expressions of templates: references to values, operators, and filters behind them. -/

namespace UdsCatalog.Template

/-- Arithmetic operators. -/
inductive MathOp where
  | plus
  | minus
  | times
  | over
  | modulo
  deriving DecidableEq, Repr

/-- Operators between conditions, and between values. -/
inductive LogicOp where
  | less
  | atMost
  | greater
  | atLeast
  | equal
  | unequal
  | both
  | either
  deriving DecidableEq, Repr

mutual

/-- The core of an expression, without its filters. -/
inductive Core where
  | text (value : String)
  | int (value : Int)
  | float (value : Binary64)
  | bool (value : Bool)
  | reference (reference : Reference)
  | math (left : Expression) (op : MathOp) (right : Expression)
  | logic (left : Expression) (op : LogicOp) (right : Expression)
  | call (name : String) (arguments : List (String × Expression))
  | list (items : List Expression)
  /-- Several values joined into one text, at least one of which is no text as it stands. -/
  | joined (parts : List Core)
  /-- A value is among those of a container, or not among them. -/
  | among (value : Expression) (negated : Bool) (container : Expression)
  deriving Repr

/-- An expression: a core, filters that change its value one after the other, and a negation. -/
inductive Expression where
  | mk (core : Core) (negated : Bool) (filters : List Filter)
  deriving Repr

/-- A filter with its arguments. -/
inductive Filter where
  | mk (name : String) (arguments : List (String × Expression))
  deriving Repr

end

/-- A core by itself. -/
def Core.bare (core : Core) : Expression := .mk core false []

/-- Parts of a joined text with neighbouring texts as one, behind the text that was read last. Nothing is
left of an empty text. -/
def Core.mergeTexts (last : String) : List Core → List Core
  | [] => if last.isEmpty then [] else [.text last]
  -- A text waits for the next part, in case that is a text as well.
  | .text value :: rest => mergeTexts (last ++ value) rest
  | part :: rest => (if last.isEmpty then [part] else [.text last, part]) ++ mergeTexts "" rest

/-- Several values joined into one text. When all of them are texts it is known at once. -/
def Core.ofParts (parts : List Core) : Core :=
  match mergeTexts "" parts with
  | [] => .text ""
  -- No part is left that the scene could change.
  | [.text value] => .text value
  | merged => .joined merged

/-- The core of an expression. -/
def Expression.core : Expression → Core
  | .mk core _ _ => core

/-- The expression with its negation set. -/
def Expression.withNegation (negated : Bool) : Expression → Expression
  | .mk core _ filters => .mk core negated filters

end UdsCatalog.Template
