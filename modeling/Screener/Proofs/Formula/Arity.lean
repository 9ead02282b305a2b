import Screener.Proofs.Formula.Acceptance
import Screener.Proofs.Formula.Dialogue
import Screener.Proofs.Formula.Ensures

/-!
# The check of operators and the evaluation

The check of operators counts values and the evaluation has them on a stack, so both come to the
same point: where an operator lacks values, or at the end with a number of values other than one
(`Formula.Offends`).  If the check passes, the evaluation does not fail for want of values.  If it
does not, the evaluation fails with the same number, unless an operand or operator that comes
before this point has failed already (`Session.evaluateFormula_agrees`).  This needs that the
definitions which the formula refers to pass the check themselves; nothing needs to be known of
what the session remembers.
-/

namespace Screener

/-! ## One node after another -/

/-- The stack after one node. -/
def Node.push (operand : Operand → Evaluation Series) :
    List Series → Node → Evaluation (List Series)
  | stack, .operand o => do
    let series ← operand o
    return series :: stack
  | right :: left :: stack, .operator op => do
    let series ← settle (Series.combine op left right)
    return series :: stack
  | stack, .operator _ => throw (.invalidExpression stack.length)

/-- A reduction goes on with the stack that the first nodes leave. -/
theorem reduce_append_push (operand : Operand → Evaluation Series) (before after : List Node)
    (stack : List Series) :
    reduce operand (before ++ after) stack =
      before.foldlM (Node.push operand) stack >>= reduce operand after := by
  induction before generalizing stack with
  | nil => rfl
  | cons node rest ih =>
      rw [List.cons_append, List.foldlM_cons, bind_assoc]
      cases node with
      | operand o =>
          rw [reduce, Node.push, bind_assoc]
          simp only [pure_bind, ih]
      | operator op =>
          rcases stack with _ | ⟨right, _ | ⟨left, below⟩⟩
          · rfl
          · rfl
          · rw [reduce, Node.push, bind_assoc]
            simp only [pure_bind, ih]

/-- The failure of one of the nodes, the nodes before it having left a stack. -/
inductive FailsAmong (operand : Operand → Evaluation Series) (progress : Progress)
    (nodes : List Node) (e : EvaluationError) : Prop
  | intro {first rest : List Node} {node : Node} {stack : List Series}
      {reached ended : Progress} (hnodes : nodes = first ++ node :: rest)
      (hfirst : (first.foldlM (Node.push operand) []).run.run progress = (.ok stack, reached))
      (hnode : (Node.push operand stack node).run.run reached = (.error e, ended))

theorem exists_of_foldlM_push_eq_error {operand : Operand → Evaluation Series}
    {nodes : List Node} {progress ended : Progress} {e : EvaluationError}
    (hfails : (nodes.foldlM (Node.push operand) []).run.run progress = (.error e, ended)) :
    FailsAmong operand progress nodes e := by
  induction nodes using List.reverseRecOn generalizing ended with
  | nil => cases hfails
  | append_singleton nodes node ih =>
      rw [List.foldlM_append, Evaluation.run_bind] at hfails
      cases hrun : (nodes.foldlM (Node.push operand) []).run.run progress with
      | mk result reached =>
          rw [hrun] at hfails
          cases result with
          | ok stack =>
              simp only [List.foldlM_cons, List.foldlM_nil, bind_pure] at hfails
              exact .intro rfl hrun hfails
          | error e' =>
              cases hfails
              obtain ⟨hnodes, hfirst, hnode⟩ := ih hrun
              exact .intro (by rw [hnodes, List.append_assoc, List.cons_append]) hfirst hnode

namespace Formula

/-! ## Where the check fails -/

/-- The number of values after nodes that are found with `depth` values before them, if no operator
lacks any. -/
def depthAfter : Nat → List Node → Option Nat
  | depth, [] => some depth
  | depth, .operand _ :: rest => depthAfter (depth + 1) rest
  | depth, .operator _ :: rest => if depth < 2 then none else depthAfter (depth - 1) rest

/-- Whether nodes go wrong after `before` with a number of values: at the end it is not one, or an
operator follows and it is less than two. -/
inductive Offends (depth values : Nat) (before : List Node) : List Node → Prop
  | leftover (hdepth : depthAfter depth before = some values) (hvalues : values ≠ 1) :
      Offends depth values before []
  | lacking {op : Operator} {rest : List Node} (hdepth : depthAfter depth before = some values)
      (hvalues : values < 2) : Offends depth values before (.operator op :: rest)

theorem Offends.depth_eq {depth values : Nat} {before after : List Node}
    (hoffends : Offends depth values before after) : depthAfter depth before = some values := by
  cases hoffends with
  | leftover hdepth _ => exact hdepth
  | lacking hdepth _ => exact hdepth

/-- The offending point of later nodes is that of all of them. -/
theorem Offends.cons {depth depth' values : Nat} {node : Node} {before after : List Node}
    (hoffends : Offends depth' values before after)
    (hnode : depthAfter depth (node :: before) = depthAfter depth' before) :
    Offends depth values (node :: before) after := by
  cases hoffends with
  | leftover hdepth hvalues => exact .leftover (hnode.trans hdepth) hvalues
  | lacking hdepth hvalues => exact .lacking (hnode.trans hdepth) hvalues

theorem exists_offends_of_arityFrom {depth : Nat} {nodes : List Node} {e : EvaluationError}
    (herror : arityFrom depth nodes = .error e) :
    ∃ values before after, e = .invalidExpression values ∧ nodes = before ++ after ∧
      Offends depth values before after := by
  induction nodes generalizing depth with
  | nil =>
      rw [arityFrom] at herror
      split at herror
      · cases herror
      · next hdepth =>
        cases herror
        exact ⟨depth, [], [], rfl, rfl, .leftover rfl hdepth⟩
  | cons node rest ih =>
      cases node with
      | operand o =>
          obtain ⟨values, before, after, rfl, rfl, hoffends⟩ := ih herror
          exact ⟨values, _, after, rfl, List.cons_append.symm, hoffends.cons rfl⟩
      | operator op =>
          rw [arityFrom] at herror
          split at herror
          · next hdepth =>
            cases herror
            exact ⟨depth, [], _, rfl, rfl, .lacking rfl hdepth⟩
          · next hdepth =>
            obtain ⟨values, before, after, rfl, rfl, hoffends⟩ := ih herror
            refine ⟨values, _, after, rfl, List.cons_append.symm, hoffends.cons ?_⟩
            rw [depthAfter, if_neg hdepth]

theorem depthAfter_of_push {operand : Operand → Evaluation Series} {node : Node}
    {stack stack' : List Series} {progress reached : Progress}
    (hrun : (Node.push operand stack node).run.run progress = (.ok stack', reached))
    (rest : List Node) :
    depthAfter stack.length (node :: rest) = depthAfter stack'.length rest := by
  cases node with
  | operand o =>
      obtain ⟨series, _, -, hstack⟩ := Evaluation.exists_of_run_bind_eq_ok hrun
      cases hstack
      rfl
  | operator op =>
      match stack with
      | [] => cases hrun
      | [_] => cases hrun
      | right :: left :: below =>
          obtain ⟨series, _, -, hstack⟩ := Evaluation.exists_of_run_bind_eq_ok hrun
          cases hstack
          rw [depthAfter, if_neg (by simp)]
          rfl

/-- The stack is as high as the check counts. -/
theorem depthAfter_of_foldlM_push {operand : Operand → Evaluation Series} {nodes : List Node}
    {stack stack' : List Series} {progress reached : Progress}
    (hrun : (nodes.foldlM (Node.push operand) stack).run.run progress = (.ok stack', reached)) :
    depthAfter stack.length nodes = some stack'.length := by
  induction nodes generalizing stack progress with
  | nil =>
      cases hrun
      rfl
  | cons node rest ih =>
      rw [List.foldlM_cons] at hrun
      obtain ⟨between, middle, hpush, hrest⟩ := Evaluation.exists_of_run_bind_eq_ok hrun
      rw [depthAfter_of_push hpush rest, ih hrest]

/-- At the offending point a reduction fails. -/
theorem Offends.reduce_eq {values : Nat} {before after : List Node}
    (hoffends : Offends 0 values before after) (operand : Operand → Evaluation Series)
    {stack : List Series} (hstack : stack.length = values) :
    reduce operand after stack = throw (.invalidExpression values) := by
  subst hstack
  cases hoffends with
  | leftover hdepth hvalues =>
      match stack with
      | [] => rfl
      | [_] => exact absurd rfl hvalues
      | _ :: _ :: _ => rfl
  | lacking hdepth hvalues =>
      match stack with
      | [] => rfl
      | [_] => rfl
      | _ :: _ :: _ =>
          simp only [List.length_cons] at hvalues
          omega

/-- Nodes that go wrong at a point fail there, or before it at one of the nodes. -/
theorem Offends.run_reduce {values : Nat} {before after : List Node}
    (hoffends : Offends 0 values before after) (operand : Operand → Evaluation Series)
    (progress : Progress) :
    ((reduce operand (before ++ after) []).run.run progress).1 =
        .error (.invalidExpression values) ∨
      ∃ e, ((reduce operand (before ++ after) []).run.run progress).1 = .error e ∧
        FailsAmong operand progress before e := by
  rw [reduce_append_push, Evaluation.run_bind]
  cases hrun : (before.foldlM (Node.push operand) []).run.run progress with
  | mk result reached =>
      cases result with
      | ok stack =>
          have hdepth := hoffends.depth_eq.symm.trans (depthAfter_of_foldlM_push hrun)
          have hstack : stack.length = values := (Option.some.inj hdepth).symm
          exact .inl (by simp only [hoffends.reduce_eq operand hstack]; rfl)
      | error e => exact .inr ⟨e, rfl, exists_of_foldlM_push_eq_error hrun⟩

end Formula

/-! ## Failures for want of operands -/

/-- Failures other than a wrong number of values. -/
def EvaluationError.OtherThanArity (e : EvaluationError) : Prop :=
  ∀ values, e ≠ .invalidExpression values

theorem Series.combine_otherThanArity (op : Operator) (left right : Series) :
    Meets (fun _ => True) EvaluationError.OtherThanArity (Series.combine op left right) := by
  unfold Series.combine
  split
  · exact nofun
  · dsimp only
    split
    · trivial
    · exact nofun

theorem Environment.checkLength_otherThanArity (env : Environment) (series : Series) :
    Meets (fun _ => True) EvaluationError.OtherThanArity (env.checkLength series) := by
  unfold Environment.checkLength
  split
  · trivial
  · exact nofun

theorem Environment.compute_otherThanArity (env : Environment) (call : Call) :
    Meets (fun _ => True) EvaluationError.OtherThanArity (env.compute call) := by
  unfold Environment.compute
  split
  · exact nofun
  · split
    · trivial
    · exact nofun

theorem steady_otherThanArity (env : Environment) :
    Steady env (fun _ => True) EvaluationError.OtherThanArity where
  combine := fun op left right _ _ => Series.combine_otherThanArity op left right
  shift := fun _ _ _ => trivial
  checkLength := fun _ => env.checkLength_otherThanArity _

variable {env : Environment} {definitions : List Formula}

theorem Operand.series_otherThanArity (env : Environment)
    (definition : Nat → Except EvaluationError Series) {o : Operand}
    (hnone : o.definition? = none) :
    Meets (fun _ => True) EvaluationError.OtherThanArity
      (o.series env env.compute definition) := by
  have hcontent : Meets (fun _ => True) EvaluationError.OtherThanArity
      (o.content env env.compute definition) := by
    cases o with
    | literal value => trivial
    | column name =>
        rw [content, settle_eq]
        split
        · trivial
        · simp [Meets, EvaluationError.OtherThanArity]
    | call c => exact env.compute_otherThanArity c
    | reference name number => cases hnone
    | lag name periods number => cases hnone
  rw [series]
  refine hcontent.bind fun series _ => ?_
  rw [settle_eq]
  exact env.checkLength_otherThanArity series

theorem Progress.remembers_true (progress : Progress) : progress.Remembers fun _ => True :=
  fun _ _ _ => trivial

theorem ensures_leaf_otherThanArity {o : Operand} (hnone : o.definition? = none)
    (definition : Nat → Evaluation Series) :
    Evaluation.Ensures (Progress.Remembers fun _ => True) (fun _ => True)
      EvaluationError.OtherThanArity (o.series env env.makeCall definition) :=
  ensures_leaf hnone (Operand.series_otherThanArity env (fun _ => .ok default) hnone) definition

/-- A definition that passes the check never fails for want of operands. -/
theorem ensures_seriesOf_otherThanArity {number : Nat} (hchecked : Checked definitions number) :
    Evaluation.Ensures (Progress.Remembers fun _ => True) (fun _ => True)
      EvaluationError.OtherThanArity (env.seriesOf definitions number) :=
  ensures_seriesOf (steady_otherThanArity env) [] rfl hchecked fun _ _ _ definition _ hnone =>
    ensures_leaf_otherThanArity hnone definition

namespace Session

variable {session : Session} {formula : Formula}

theorem evaluateFormula_fst (session : Session) (formula : Formula) :
    (session.evaluateFormula formula).1 =
      ((session.env.evaluate session.bindings.formulas formula).run.run session.progress).1 :=
  rfl

/-- An evaluation fails for want of operands only with the number that the check gives. -/
theorem checkArity_of_evaluateFormula
    (hchecked : ∀ o, .operand o ∈ formula.nodes → ∀ number, o.definition? = some number →
      Checked session.bindings.formulas number)
    {values : Nat}
    (hresult : (session.evaluateFormula formula).1 = .error (.invalidExpression values)) :
    formula.checkArity = .error (.invalidExpression values) := by
  obtain ⟨-, hmeets⟩ := ensures_evaluate (steady_otherThanArity session.env) hchecked
    (fun o definition _ hnone => ensures_leaf_otherThanArity hnone definition) session.progress
    session.progress.remembers_true
  rw [← evaluateFormula_fst, hresult] at hmeets
  exact hmeets.resolve_right fun hother => hother values rfl

/-- The operands and operators of a formula fail in a session with an error, the nodes before having
left a stack. -/
def FailsAmong (session : Session) (nodes : List Node) (e : EvaluationError) : Prop :=
  Screener.FailsAmong (Operand.series session.env session.env.makeCall
    (session.env.seriesOf session.bindings.formulas)) session.progress nodes e

/-- **The check of operators and the evaluation agree.**  Whatever a session remembers, a formula
that passes the check does not fail for want of operands.  One that does not pass goes wrong at a
point, and its evaluation fails with the same number of values, unless one of the nodes before
that point has failed with another error. -/
theorem evaluateFormula_agrees (session : Session) (formula : Formula)
    (hchecked : ∀ o, .operand o ∈ formula.nodes → ∀ number, o.definition? = some number →
      Checked session.bindings.formulas number) :
    match formula.checkArity with
    | .ok () => ∀ values, (session.evaluateFormula formula).1 ≠ .error (.invalidExpression values)
    | .error e => ∃ values before after, e = .invalidExpression values ∧
        formula.nodes = before ++ after ∧ Formula.Offends 0 values before after ∧
        ((session.evaluateFormula formula).1 = .error (.invalidExpression values) ∨
          ∃ failure, (session.evaluateFormula formula).1 = .error failure ∧
            failure.OtherThanArity ∧ session.FailsAmong before failure) := by
  cases harity : formula.checkArity with
  | ok checked =>
      intro values hresult
      rw [checkArity_of_evaluateFormula hchecked hresult] at harity
      cases harity
  | error e =>
      obtain ⟨values, before, after, rfl, hnodes, hoffends⟩ :=
        Formula.exists_offends_of_arityFrom harity
      refine ⟨values, before, after, rfl, hnodes, hoffends, ?_⟩
      have hrun := hoffends.run_reduce (Operand.series session.env session.env.makeCall
        (session.env.seriesOf session.bindings.formulas)) session.progress
      rw [← hnodes] at hrun
      rcases hrun with hsame | ⟨failure, hfailure, hamong⟩
      · exact .inl hsame
      · by_cases hinvalid : ∃ other, failure = .invalidExpression other
        · obtain ⟨other, rfl⟩ := hinvalid
          have hother := checkArity_of_evaluateFormula hchecked hfailure
          rw [harity] at hother
          cases hother
          exact .inl hfailure
        · exact .inr ⟨failure, hfailure, fun other heq => hinvalid ⟨other, heq⟩, hamong⟩

/-- A value is left over in `x AND close x.shift(1)`, but its numbers cannot be joined, which is
found first. -/
theorem evaluateFormula_agrees_leftOver :
    let difference : Formula := ⟨"high - low",
      [.operand (.column "high"), .operand (.column "low"), .operator .sub]⟩
    let formula : Formula := ⟨"x AND close x.shift(1)",
      [.operand (.reference "x" 0), .operand (.column "close"), .operand (.lag "x" 1 0),
        .operator .and]⟩
    let session : Session :=
      { start Frame.empty .empty with bindings := Bindings.empty.define "x" difference }
    (∀ o, .operand o ∈ formula.nodes → ∀ number, o.definition? = some number →
      Checked session.bindings.formulas number) ∧
    formula.checkArity = .error (.invalidExpression 2) ∧
    (session.evaluateFormula formula).1 = .error (.typeMismatch "AND" "number" "number") ∧
    ∃ before after, formula.nodes = before ++ after ∧ Formula.Offends 0 2 before after ∧
      session.FailsAmong before (.typeMismatch "AND" "number" "number") := by
  intro difference formula session
  have hdefined : Checked session.bindings.formulas 0 := by
    refine ⟨rfl, fun o hmem other hother => ?_⟩
    simp only [difference, List.mem_cons, Node.operand.injEq, reduceCtorEq, List.not_mem_nil,
      or_false] at hmem
    rcases hmem with rfl | rfl <;> cases hother
  have hchecked : ∀ o, .operand o ∈ formula.nodes → ∀ number, o.definition? = some number →
      Checked session.bindings.formulas number := by
    intro o hmem number hnumber
    simp only [formula, List.mem_cons, Node.operand.injEq, reduceCtorEq, List.not_mem_nil,
      or_false] at hmem
    rcases hmem with rfl | rfl | rfl <;> cases hnumber <;> exact hdefined
  have harity : formula.checkArity = .error (.invalidExpression 2) := rfl
  have hresult : (session.evaluateFormula formula).1 =
      .error (.typeMismatch "AND" "number" "number") := rfl
  have h := evaluateFormula_agrees session formula hchecked
  rw [harity] at h
  obtain ⟨values, before, after, heq, hnodes, hoffends, hends⟩ := h
  cases heq
  rw [hresult] at hends
  rcases hends with hsame | ⟨failure, hfailure, -, hamong⟩
  · cases hsame
  · cases hfailure
    exact ⟨hchecked, harity, hresult, before, after, hnodes, hoffends, hamong⟩

end Session

end Screener
