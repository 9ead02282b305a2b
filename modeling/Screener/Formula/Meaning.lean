import Screener.Formula.Reduce
import Screener.Formula.Bindings

/-!
# The meaning of formulas

What a formula stands for on the rows of a frame.  A reference stands for the series of its
definition, and a definition refers to earlier definitions only, so the meaning is given by
recursion on the definitions.  Every reference is reduced anew: `Screener.Formula.Session` computes
the same series and reduces each definition once.
-/

namespace Screener

namespace Environment

/-- The series of a numbered definition among `definitions`, which are listed newest first. -/
def definition (env : Environment) : List Formula → Nat → Except EvaluationError Series
  | [], _ => .error (.invalidExpression 0)
  | formula :: earlier, number =>
    if number = earlier.length then
      reduce (Operand.series env env.compute (env.definition earlier)) formula.nodes []
    else env.definition earlier number

/-- The series of a formula whose references are among `definitions`. -/
def meaning (env : Environment) (definitions : List Formula) (formula : Formula) :
    Except EvaluationError Series :=
  reduce (Operand.series env env.compute (env.definition definitions)) formula.nodes []

/-- A definition means what its formula means among the definitions before it. -/
theorem definition_length (env : Environment) (formula : Formula) (earlier : List Formula) :
    env.definition (formula :: earlier) earlier.length = env.meaning earlier formula := by
  simp [definition, meaning]

/-- Later definitions do not change what a definition means. -/
theorem definition_cons_of_lt (env : Environment) (formula : Formula) {earlier : List Formula}
    {number : Nat} (h : number < earlier.length) :
    env.definition (formula :: earlier) number = env.definition earlier number := by
  have : number ≠ earlier.length := by omega
  simp [definition, this]

end Environment

end Screener
