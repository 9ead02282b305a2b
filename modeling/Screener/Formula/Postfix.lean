import Screener.Formula.Token

/-!
# Postfix order

Brings the tokens of a formula into postfix order.  Operators and opening parentheses wait on a
stack: an operator gives way to the waiting operators that bind at least as tightly, a closing
parenthesis to all that wait since its opening one.  The nodes come out in the order in which they
are settled, so the list of nodes is the result and nothing is reordered afterwards.
-/

namespace Screener

/-- What waits for its place: an operator, or an opening parenthesis and where it stands. -/
inductive Pending where
  | operator (operator : Operator)
  | paren (position : Nat)
  deriving Repr, DecidableEq

namespace Pending

/-- The waiting operators on top that bind at least as tightly as `op`, and what is below them. -/
def popTighter (op : Operator) : List Pending → List Operator × List Pending
  | .operator top :: rest =>
    if op.precedence ≤ top.precedence then
      (top :: (popTighter op rest).1, (popTighter op rest).2)
    else ([], .operator top :: rest)
  | stack => ([], stack)

/-- The waiting operators above the topmost parenthesis, and what is below it. -/
def popParen? : List Pending → Option (List Operator × List Pending)
  | [] => none
  | .paren _ :: rest => some ([], rest)
  | .operator top :: rest => (popParen? rest).map fun (ops, below) => (top :: ops, below)

/-- All that waits when the text has ended; a parenthesis among it was never closed. -/
def popAll : List Pending → Except CompileError (List Node)
  | [] => .ok []
  | .operator top :: rest => (popAll rest).map (.operator top :: ·)
  | .paren position :: _ => .error ⟨.mismatchedParentheses, position⟩

end Pending

namespace Formula

/-- The nodes of the remaining lexemes when `stack` waits before them. -/
def arrange (scope : Scope) : List Lexeme → List Pending → Except CompileError (List Node)
  | [], stack => Pending.popAll stack
  | lexeme :: rest, stack =>
    match scope.classify lexeme with
    | .error e => .error e
    | .ok (.operand o) => (arrange scope rest stack).map (.operand o :: ·)
    | .ok (.operator op) =>
      let (ops, below) := Pending.popTighter op stack
      (arrange scope rest (.operator op :: below)).map (ops.map .operator ++ ·)
    | .ok .opening => arrange scope rest (.paren lexeme.position :: stack)
    | .ok .closing =>
      match Pending.popParen? stack with
      | none => .error ⟨.mismatchedParentheses, lexeme.position⟩
      | some (ops, below) => (arrange scope rest below).map (ops.map .operator ++ ·)

/-- Compiles a text.  Nothing tells here whether operators have their operands: `checkArity` and
the evaluation do. -/
def compile (scope : Scope) (source : String) : Except CompileError Formula :=
  match Lexeme.ofText source with
  | [] => .error ⟨.emptyExpression, 0⟩
  | lexemes => (arrange scope lexemes []).map (⟨source, ·⟩)

end Formula

end Screener
