import Screener.Formula.Postfix
import Screener.Proofs.Formula.Results

/-!
# The stack of waiting operators

What leaves the stack when an operator, a closing parenthesis or the end of the text is read.  The
first part says it for a stack whose top is known, the second takes any stack apart: what leaves is
always a run of operators from its top, in their order.
-/

namespace Screener

namespace Pending

/-- The operator on top of the stack. -/
def top? : List Pending → Option Operator
  | .operator op :: _ => some op
  | _ => none

/-! ## Operators on top of a stack leave it together -/

theorem popTighter_append {op : Operator} {ops : List Operator} {stack : List Pending}
    (htighter : ∀ inner ∈ ops, op.precedence ≤ inner.precedence)
    (hlooser : ∀ top ∈ top? stack, top.precedence < op.precedence) :
    popTighter op (ops.map .operator ++ stack) = (ops, stack) := by
  induction ops with
  | nil =>
      cases stack with
      | nil => rfl
      | cons pending rest =>
          cases pending with
          | operator top =>
              have hnot : ¬ op.precedence ≤ top.precedence := Int.not_le.mpr (hlooser top rfl)
              rw [List.map_nil, List.nil_append, popTighter, if_neg hnot]
          | paren position => rfl
  | cons top rest ih =>
      have hrest := ih fun inner hinner => htighter inner (List.mem_cons_of_mem _ hinner)
      rw [List.map_cons, List.cons_append, popTighter, if_pos (htighter top List.mem_cons_self),
        hrest]

theorem popParen?_append (ops : List Operator) (position : Nat) (stack : List Pending) :
    popParen? (ops.map .operator ++ .paren position :: stack) = some (ops, stack) := by
  induction ops with
  | nil => rfl
  | cons top rest ih => rw [List.map_cons, List.cons_append, popParen?, ih]; rfl

theorem popAll_operators (ops : List Operator) :
    popAll (ops.map .operator) = .ok (ops.map .operator) := by
  induction ops with
  | nil => rfl
  | cons top rest ih => rw [List.map_cons, popAll, ih]; rfl

/-! ## What leaves the stack is a run of operators from its top -/

theorem popTighter_append_eq (op : Operator) (stack : List Pending) :
    (popTighter op stack).1.map .operator ++ (popTighter op stack).2 = stack := by
  induction stack with
  | nil => rfl
  | cons pending rest ih =>
      cases pending with
      | paren position => rfl
      | operator top =>
          rw [popTighter]
          split
          · rw [List.map_cons, List.cons_append, ih]
          · rfl

theorem popParen?_eq_some {stack below : List Pending} {ops : List Operator}
    (hpop : popParen? stack = some (ops, below)) :
    ∃ position, stack = ops.map .operator ++ .paren position :: below := by
  induction stack generalizing ops with
  | nil => cases hpop
  | cons pending rest ih =>
      cases pending with
      | paren position =>
          cases hpop
          exact ⟨position, rfl⟩
      | operator top =>
          rw [popParen?, Option.map_eq_some_iff] at hpop
          obtain ⟨⟨inner, rest'⟩, hinner, heq⟩ := hpop
          cases heq
          obtain ⟨position, rfl⟩ := ih hinner
          exact ⟨position, rfl⟩

theorem popAll_eq_ok {stack : List Pending} {nodes : List Node} (hpop : popAll stack = .ok nodes) :
    ∃ ops : List Operator, stack = ops.map .operator ∧ nodes = ops.map .operator := by
  induction stack generalizing nodes with
  | nil =>
      cases hpop
      exact ⟨[], rfl, rfl⟩
  | cons pending rest ih =>
      cases pending with
      | paren position => cases hpop
      | operator top =>
          obtain ⟨inner, hrest, rfl⟩ := map_eq_ok hpop
          obtain ⟨ops, rfl, rfl⟩ := ih hrest
          exact ⟨top :: ops, rfl, rfl⟩

end Pending

end Screener
