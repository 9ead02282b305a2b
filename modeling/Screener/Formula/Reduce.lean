import Screener.Formula.Basic
import Screener.Formula.Combine
import Screener.Frame
import Screener.Indicator.Registry

/-!
# Reducing formulas

A formula is reduced on a stack of series: an operand puts its series on top, an operator replaces
the two topmost series by their combination.  How calls are made and how definitions are looked up
is left open, so that the same reduction serves with and without a memory of earlier results.
-/

namespace Screener

/-- The rows on which formulas are reduced and the indicators they may call. -/
structure Environment where
  frame : Frame
  registry : Registry

namespace Environment

/-- The column that a call gives. -/
def compute (env : Environment) (call : Call) : Except EvaluationError Series :=
  match env.registry.get? call.name with
  | none => .error (.indicator call.name "not registered")
  | some indicator =>
    match indicator env.frame call.arguments with
    | .ok rows => .ok (.numbers rows)
    | .error e => .error (.indicator call.name e.message)

/-- A series with one entry for each row of the frame. -/
def checkLength (env : Environment) (series : Series) : Except EvaluationError Series :=
  if series.length = env.frame.size then .ok series
  else .error (.lengthMismatch env.frame.size series.length)

end Environment

variable {m : Type → Type} [Monad m] [MonadExceptOf EvaluationError m]

/-- A result as a step of a larger computation. -/
def settle {α : Type} : Except EvaluationError α → m α
  | .ok a => pure a
  | .error e => throwThe EvaluationError e

/-- The series that an operand stands for, with a way to make calls and a way to reduce
definitions. -/
def Operand.content (env : Environment) (call : Call → m Series) (definition : Nat → m Series) :
    Operand → m Series
  | .literal value => pure (Series.broadcast value env.frame.size)
  | .column name => settle (match env.frame.column? name with
    | some values => .ok (Series.ofNumbers values)
    | none => .error (.unboundColumn name))
  | .call c => call c
  | .reference _ number => definition number
  | .lag _ periods number => do
    let series ← definition number
    pure (series.shift periods)

/-- The series of an operand, which must have one entry for each row. -/
def Operand.series (env : Environment) (call : Call → m Series) (definition : Nat → m Series)
    (operand : Operand) : m Series := do
  let series ← operand.content env call definition
  settle (env.checkLength series)

/-- What the nodes leave on the stack, which must be a single series. -/
def reduce (operand : Operand → m Series) : List Node → List Series → m Series
  | [], [result] => pure result
  | [], stack => throwThe EvaluationError (.invalidExpression stack.length)
  | .operand o :: rest, stack => do
    let series ← operand o
    reduce operand rest (series :: stack)
  | .operator op :: rest, right :: left :: stack => do
    let series ← settle (Series.combine op left right)
    reduce operand rest (series :: stack)
  | .operator _ :: _, stack => throwThe EvaluationError (.invalidExpression stack.length)

end Screener
