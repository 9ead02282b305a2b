import Screener.Proofs.Formula.Written

/-!
# Compiling and evaluating written formulas

A formula that is written with enough parentheses compiles to the postorder of its tree, passes the
check of its operators, and evaluates to the value of its tree: in a session, with the memory of the
session and with the calls in the order of the operands, and by the meaning of formulas, which has
no memory.
-/

namespace Screener

namespace Written

theorem words_ne_nil (written : Written) : written.words ≠ [] := by
  cases written <;> simp [words]

/-- The text of a written formula compiles to the postorder of its tree. -/
theorem compile_eq {scope : Scope} {source : String} {written : Written}
    (hreads : written.Reads scope) (hbracketed : written.Bracketed)
    (hspaced : Spaced source.toList written.words) :
    Formula.compile scope source = .ok ⟨source, written.tree.postorder⟩ := by
  have hwords := Lexeme.map_text_ofText hspaced
  have hlexemes : Lexeme.ofText source ≠ [] := by
    intro hnone
    rw [hnone] at hwords
    exact written.words_ne_nil hwords.symm
  have harrange : Formula.arrange scope (Lexeme.ofText source) [] = .ok written.tree.postorder := by
    have h := Formula.arrange_written hreads hbracketed hwords [] [] nofun
    rw [List.append_nil, List.append_nil, Formula.arrange, Pending.popAll_operators] at h
    rw [h, ← written.settled_append_waiting]
    rfl
  rw [Formula.compile_of_lexemes hlexemes, harrange]
  rfl

end Written

namespace Session

/-- Evaluates a tree in a session by recursion on the tree. -/
def evaluateTree (session : Session) (tree : FormulaTree) :
    Except ExpressionError Series × Session :=
  let (result, progress) := (tree.value (Operand.series session.env session.env.makeCall
    (session.env.seriesOf session.bindings.formulas))).run.run session.progress
  (result.mapError .evaluation, { session with progress })

/-- **A written formula compiles to the postorder of its tree and evaluates to the value of its
tree**, in every session. -/
theorem evaluate_written (session : Session) {source : String} {written : Written}
    (hreads : written.Reads session.scope) (hbracketed : written.Bracketed)
    (hspaced : Spaced source.toList written.words) :
    session.compile source = .ok ⟨source, written.tree.postorder⟩ ∧
      Formula.checkArity ⟨source, written.tree.postorder⟩ = .ok () ∧
      session.evaluate source = session.evaluateTree written.tree ∧
      session.env.meaning session.bindings.formulas ⟨source, written.tree.postorder⟩ =
        written.tree.value (Operand.series session.env session.env.compute
          (session.env.definition session.bindings.formulas)) := by
  have hcompile : session.compile source = .ok ⟨source, written.tree.postorder⟩ :=
    Written.compile_eq hreads hbracketed hspaced
  refine ⟨hcompile, FormulaTree.checkArity_postorder source _, ?_, ?_⟩
  · rw [evaluate, hcompile]
    simp only [evaluateFormula, Environment.evaluate, FormulaTree.reduce_postorder]
    rfl
  · exact FormulaTree.reduce_postorder _ _

/-- The tree of `high - low - ( open - close ) > volume / amount`. -/
def spreadPerTrade : Written :=
  let column := fun name : String => Written.operand name (.column name)
  .binary .gt
    (.binary .sub (.binary .sub (column "high") (column "low"))
      (.group (.binary .sub (column "open") (column "close"))))
    (.binary .div (column "volume") (column "amount"))

theorem evaluate_written_spreadPerTrade :
    let session := Session.start threeRises .empty
    let source := "high - low - ( open - close ) > volume / amount"
    spreadPerTrade.Reads session.scope ∧ spreadPerTrade.Bracketed ∧
      Spaced source.toList spreadPerTrade.words ∧
      session.compile source = .ok ⟨source, spreadPerTrade.tree.postorder⟩ ∧
      session.evaluate source = session.evaluateTree spreadPerTrade.tree := by
  intro session source
  have hreads : spreadPerTrade.Reads session.scope := by
    refine ⟨⟨⟨rfl, rfl⟩, rfl, rfl⟩, rfl, rfl⟩
  have hbracketed : spreadPerTrade.Bracketed := by
    simp [spreadPerTrade, Written.Bracketed, Written.joint?, Operator.precedence]
  have hspaced : Spaced source.toList spreadPerTrade.words := by
    have hsource : source = " ".intercalate spreadPerTrade.words := by decide +kernel
    rw [hsource]
    exact .of_intercalate (by decide +kernel)
  have h := evaluate_written session hreads hbracketed hspaced
  exact ⟨hreads, hbracketed, hspaced, h.1, h.2.2.1⟩

end Session

end Screener
