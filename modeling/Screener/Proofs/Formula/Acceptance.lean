import Screener.Indicator.Standard
import Screener.Proofs.Formula.Grammar
import Screener.Proofs.Formula.Memory
import Screener.Proofs.Formula.Written

/-!
# Which texts are accepted

A text is accepted if it compiles and its operators find their operands, and only an accepted text
can be evaluated (`Session.accepts_of_evaluate`).  The check counts values and does not look at
where they stand, so that `close open +` is accepted.  Apart from such neighbours it is exact: among
accepted texts the grammatical ones are those in which no value follows another one directly.
-/

namespace Screener

namespace Formula

/-- The tokens of a text that compiles, with what is known of them if its operators find their
operands. -/
theorem exists_tokens_of_compile {scope : Scope} {source : String} {formula : Formula}
    (hcompile : compile scope source = .ok formula) (harity : formula.checkArity = .ok ()) :
    ∃ tokens, (Lexeme.ofText source).mapM scope.classify = .ok tokens ∧ Matched 0 tokens ∧
      surplus tokens = 1 := by
  obtain ⟨tokens, htokens, hmatched, hcount⟩ := (arranges_of_compile hcompile).exists_tokens
  have hone := surplus_of_arityFrom harity
  refine ⟨tokens, htokens, hmatched, ?_⟩
  rw [hcount] at hone
  simpa [surplus] using hone

/-- Nodes that can be reduced leave exactly one value. -/
theorem arityFrom_of_reduce {operand : Operand → Evaluation Series} {nodes : List Node}
    {stack : List Series} {progress : Progress} {series : Series}
    (h : ((reduce operand nodes stack).run.run progress).1 = .ok series) :
    arityFrom stack.length nodes = .ok () := by
  induction nodes generalizing stack progress with
  | nil =>
      rcases stack with _ | ⟨top, _ | ⟨below, stack⟩⟩
      · cases h
      · rfl
      · cases h
  | cons node rest ih =>
      cases node with
      | operand o =>
          rw [reduce, Evaluation.run_bind] at h
          cases hrun : (operand o).run.run progress with
          | mk result progress' =>
              rw [hrun] at h
              cases result with
              | error e => cases h
              | ok value => exact ih h
      | operator op =>
          rcases stack with _ | ⟨right, _ | ⟨left, stack⟩⟩
          · cases h
          · cases h
          · rw [reduce, Evaluation.run_bind, Evaluation.run_settle] at h
            rw [arityFrom, if_neg (by simp)]
            cases hcombine : Series.combine op left right with
            | error e =>
                rw [hcombine] at h
                cases h
            | ok value =>
                rw [hcombine] at h
                have hrest : arityFrom (value :: stack).length rest = .ok () := ih h
                exact hrest

end Formula

namespace Session

/-- Whether a text compiles and its operators find their operands. -/
def Accepts (session : Session) (source : String) : Prop :=
  ∃ formula, session.compile source = .ok formula ∧ formula.checkArity = .ok ()

theorem accepts_of_evaluate {session : Session} {source : String} {series : Series}
    (h : (session.evaluate source).1 = .ok series) : session.Accepts source := by
  cases hcompile : session.compile source with
  | error e =>
      rw [evaluate, hcompile] at h
      cases h
  | ok formula =>
      refine ⟨formula, hcompile, ?_⟩
      rw [evaluate, hcompile] at h
      have hresult : ((session.env.evaluate session.bindings.formulas formula).run.run
          session.progress).1.mapError ExpressionError.evaluation = .ok series := h
      cases hreduce : ((session.env.evaluate session.bindings.formulas formula).run.run
          session.progress).1 with
      | error e =>
          rw [hreduce] at hresult
          cases hresult
      | ok value => exact Formula.arityFrom_of_reduce hreduce

theorem lexemes_of_operator_last :
    Lexeme.ofText "close open +" = [⟨"close", 0⟩, ⟨"open", 6⟩, ⟨"+", 11⟩] := by
  decide +kernel

/-- Two operands and then their operator: the values are counted, not their places. -/
theorem accepts_operator_last (session : Session) : session.Accepts "close open +" := by
  have hcompile : session.compile "close open +" = .ok ⟨"close open +",
      [.operand (.column "close"), .operand (.column "open"), .operator .add]⟩ := by
    rw [compile, Formula.compile_of_lexemes (by rw [lexemes_of_operator_last]; simp),
      lexemes_of_operator_last]
    rfl
  exact ⟨_, hcompile, rfl⟩

theorem tokens_of_operator_last (session : Session) :
    (Lexeme.ofText "close open +").mapM session.scope.classify =
      .ok [.operand (.column "close"), .operand (.column "open"), .operator .add] := by
  rw [lexemes_of_operator_last]
  rfl

/-- **An accepted text is grammatical exactly if no value follows another one directly**, and so is
a text that can be evaluated. -/
theorem grammatical_iff_of_accepts (session : Session) {source : String}
    (haccepts : session.Accepts source ∨ ∃ series, (session.evaluate source).1 = .ok series) :
    ∃ tokens, (Lexeme.ofText source).mapM session.scope.classify = .ok tokens ∧
      (Grammatical tokens ↔ Separated tokens) := by
  have hformula : session.Accepts source := by
    rcases haccepts with haccepts | ⟨series, hseries⟩
    · exact haccepts
    · exact accepts_of_evaluate hseries
  obtain ⟨formula, hcompile, harity⟩ := hformula
  obtain ⟨tokens, htokens, hmatched, hsurplus⟩ :=
    Formula.exists_tokens_of_compile hcompile harity
  exact ⟨tokens, htokens, grammatical_iff_separated hmatched hsurplus⟩

/-- The accepted text `close open +` is no exception: its operands are neighbours. -/
theorem grammatical_iff_operator_last :
    (start Frame.empty .standard).Accepts "close open +" ∧
      ∃ tokens, (Lexeme.ofText "close open +").mapM (start Frame.empty .standard).scope.classify =
          .ok tokens ∧ (Grammatical tokens ↔ Separated tokens) :=
  ⟨accepts_operator_last _, grammatical_iff_of_accepts _ (.inl (accepts_operator_last _))⟩

/-- Not every accepted text is grammatical. -/
theorem not_grammatical_of_accepts :
    ¬ ∀ (session : Session) (source : String), session.Accepts source →
      ∃ tokens, (Lexeme.ofText source).mapM session.scope.classify = .ok tokens ∧
        Grammatical tokens := by
  intro hall
  have session := Session.start Frame.empty .empty
  obtain ⟨tokens, htokens, hgrammatical⟩ := hall session _ (accepts_operator_last session)
  rw [tokens_of_operator_last session] at htokens
  cases htokens
  have hseparated := hgrammatical.separated
  exact (List.isChain_cons_cons.mp hseparated).1 ⟨rfl, rfl⟩

end Session

end Screener
