import Screener.Decimal.Layout
import Screener.Formula.Error
import Screener.Formula.Operator

/-!
# Compiled formulas

A compiled formula is a list of nodes in postfix order: operands, and operators that take the two
values before them.  A reference to a variable carries the number of the definition that the name
stood for when the reference was compiled, so a later definition of the same name does not change
it.  `checkArity` tells whether the nodes reduce to exactly one value.
-/

namespace Screener

/-- A call of an indicator. -/
structure Call where
  name : String
  arguments : List Float
  deriving Repr, BEq

/-- What stands for a value. -/
inductive Operand where
  | literal (value : Float)
  | column (name : String)
  | call (call : Call)
  /-- A variable and the number of its definition. -/
  | reference (name : String) (definition : Nat)
  /-- A variable as it was some rows earlier. -/
  | lag (name : String) (periods : Int) (definition : Nat)
  deriving Repr, BEq

/-- One element of a postfix list. -/
inductive Node where
  | operand (operand : Operand)
  | operator (operator : Operator)
  deriving Repr, BEq

/-- The nodes of a formula in postfix order, with the text that they were compiled from. -/
structure Formula where
  source : String
  nodes : List Node
  deriving Repr, BEq

/-- An operand as it would be written in a formula. -/
def Operand.text : Operand → String
  | literal value => Decimal.plain.text value
  | column name => name
  | call c => c.name ++ "(" ++ ",".intercalate (c.arguments.map Decimal.plain.text) ++ ")"
  | reference name _ => name
  | lag name periods _ => name ++ ".shift(" ++ toString periods ++ ")"

/-- A node as it would be written in a formula. -/
def Node.text : Node → String
  | operand o => o.text
  | operator op => op.symbol

namespace Formula

/-- The nodes in order with spaces between them. -/
def text (formula : Formula) : String := " ".intercalate (formula.nodes.map Node.text)

/-- Whether nodes, found with `depth` values before them, leave exactly one value; otherwise the
number of values at the first operator that lacks some, or at the end. -/
def arityFrom : Nat → List Node → Except EvaluationError Unit
  | depth, [] => if depth = 1 then .ok () else .error (.invalidExpression depth)
  | depth, .operand _ :: rest => arityFrom (depth + 1) rest
  | depth, .operator _ :: rest =>
    if depth < 2 then .error (.invalidExpression depth) else arityFrom (depth - 1) rest

/-- Whether the formula reduces to exactly one value, without looking at any data. -/
def checkArity (formula : Formula) : Except EvaluationError Unit := arityFrom 0 formula.nodes

end Formula

end Screener
