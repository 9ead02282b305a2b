import Screener.Formula.Error
import Screener.Formula.Operator
import Screener.Series

/-!
# Operators on series

An operator works row by row.  Numbers can be calculated with and compared, truth values can be
joined and compared.  A missing entry makes the row missing, except that `AND` and `OR` are decided
by one operand where that is enough.
-/

namespace Screener

/-- How far apart two equal numbers may be. -/
def tolerance : Float := 1e-9

namespace Series

/-- Row by row, missing where an entry is missing. -/
def zipPresent {α β : Type} (f : α → α → β) (left right : List (Option α)) : List (Option β) :=
  List.zipWith (fun a b => match a, b with
    | some a, some b => some (f a b)
    | _, _ => none) left right

/-- The operation that is `decisive` as soon as one operand is, and the other truth value if both
operands are: `OR` if `decisive` is true, `AND` if it is false. -/
def decide3 (decisive : Bool) (a b : Option Bool) : Option Bool :=
  if a = some decisive ∨ b = some decisive then some decisive
  else match a, b with
    | some _, some _ => some (!decisive)
    | _, _ => none

/-- Two series joined by an operator that does not take their kinds. -/
def mismatch (op : Operator) (left right : Series) : EvaluationError :=
  .typeMismatch op.symbol left.kind.word right.kind.word

/-- An operator on two columns of numbers, if it takes numbers. -/
def onNumbers? (op : Operator) (left right : List (Option Float)) : Option Series :=
  match op with
  | .add => some (numbers (zipPresent (· + ·) left right))
  | .sub => some (numbers (zipPresent (· - ·) left right))
  | .mul => some (numbers (zipPresent (· * ·) left right))
  | .div => some (numbers (zipPresent (· / ·) left right))
  | .gt => some (truths (zipPresent (fun a b => decide (a > b)) left right))
  | .ge => some (truths (zipPresent (fun a b => decide (a ≥ b)) left right))
  | .lt => some (truths (zipPresent (fun a b => decide (a < b)) left right))
  | .le => some (truths (zipPresent (fun a b => decide (a ≤ b)) left right))
  | .eq => some (truths (zipPresent (fun a b => decide ((a - b).abs ≤ tolerance)) left right))
  | .ne => some (truths (zipPresent (fun a b => decide ((a - b).abs > tolerance)) left right))
  | .and | .or => none

/-- An operator on two columns of truth values, if it takes truth values. -/
def onTruths? (op : Operator) (left right : List (Option Bool)) : Option Series :=
  match op with
  | .and => some (truths (List.zipWith (decide3 false) left right))
  | .or => some (truths (List.zipWith (decide3 true) left right))
  | .eq => some (truths (zipPresent (· == ·) left right))
  | .ne => some (truths (zipPresent (· != ·) left right))
  | _ => none

/-- An operator on two series of the same length. -/
def combine (op : Operator) (left right : Series) : Except EvaluationError Series :=
  if left.length ≠ right.length then .error (.lengthMismatch left.length right.length)
  else
    let result? := match left, right with
      | numbers l, numbers r => onNumbers? op l r
      | truths l, truths r => onTruths? op l r
      | _, _ => none
    match result? with
    | some result => .ok result
    | none => .error (mismatch op left right)

@[simp] theorem length_zipPresent {α β : Type} (f : α → α → β) (left right : List (Option α)) :
    (zipPresent f left right).length = min left.length right.length := by
  simp [zipPresent]

end Series

end Screener
