import Screener.Formula.Session

/-!
# Formulas as trees

A formula means a tree of operands and operators.  `FormulaTree.postorder` lists its nodes in the
order in which they are reduced, and `FormulaTree.value` is what the tree stands for, found by
recursion: first the left part, then the right part, then the operator.

Main statement: reducing the nodes of a tree pushes the value of the tree and goes on with what
follows (`reduce_postorder`), in every monad in which operands may be found.  Whatever an operand
does on the way, with a memory or with a failure, happens in the same order on both sides.
-/

namespace Screener

/-- A formula as a tree. -/
inductive FormulaTree where
  | operand (operand : Operand)
  | binary (operator : Operator) (left right : FormulaTree)

namespace FormulaTree

/-- The nodes of a tree, each operator after its two parts. -/
def postorder : FormulaTree → List Node
  | operand o => [.operand o]
  | binary op left right => left.postorder ++ right.postorder ++ [.operator op]

/-- The nodes of a tree take up one place more on the stack. -/
theorem arityFrom_postorder (tree : FormulaTree) (depth : Nat) (rest : List Node) :
    Formula.arityFrom depth (tree.postorder ++ rest) = Formula.arityFrom (depth + 1) rest := by
  induction tree generalizing depth rest with
  | operand o => rfl
  | binary op left right ihLeft ihRight =>
      rw [postorder, List.append_assoc, List.append_assoc, ihLeft, ihRight, List.singleton_append,
        Formula.arityFrom, if_neg (by omega)]
      rfl

theorem checkArity_postorder (source : String) (tree : FormulaTree) :
    Formula.checkArity ⟨source, tree.postorder⟩ = .ok () := by
  have h := arityFrom_postorder tree 0 []
  rw [List.append_nil] at h
  rw [Formula.checkArity, h]
  rfl

variable {m : Type → Type} [Monad m] [MonadExceptOf EvaluationError m]

/-- The series of a tree: the left part is evaluated before the right part, and then the operator
combines the two. -/
def value (operand : Operand → m Series) : FormulaTree → m Series
  | .operand o => operand o
  | .binary op left right => do
    let leftSeries ← left.value operand
    let rightSeries ← right.value operand
    settle (Series.combine op leftSeries rightSeries)

theorem reduce_postorder_append [LawfulMonad m] (operand : Operand → m Series)
    (tree : FormulaTree) (rest : List Node) (stack : List Series) :
    reduce operand (tree.postorder ++ rest) stack =
      tree.value operand >>= fun series => reduce operand rest (series :: stack) := by
  induction tree generalizing rest stack with
  | operand o => rfl
  | binary op left right ihLeft ihRight =>
      rw [postorder, List.append_assoc, List.append_assoc, ihLeft]
      simp only [ihRight, List.singleton_append, reduce, value, bind_assoc]

theorem reduce_postorder [LawfulMonad m] (operand : Operand → m Series) (tree : FormulaTree) :
    reduce operand tree.postorder [] = tree.value operand := by
  have h := reduce_postorder_append operand tree [] []
  rw [List.append_nil] at h
  rw [h]
  simp only [reduce, bind_pure]

end FormulaTree

end Screener
