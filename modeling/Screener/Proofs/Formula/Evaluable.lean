import Screener.Proofs.Formula.Arity
import Screener.Proofs.Formula.Availability
import Screener.Proofs.Formula.Kinds

/-!
# What compiles can be evaluated

A formula that names only what is there can still fail in a few ways (`Blames`): an operator does
not take the kinds of its operands, an indicator that it reaches refuses its arguments, or one
gives a column of another length than the frame.  It also fails if the check of its own operators
does, but not for want of values in a definition.  If it does not fail, it gives one entry for
each row of the frame, of the kind that its last operator gives.

A formula that is compiled in a session names what is there, then and whatever is asked
afterwards, so all this holds of it (`Session.evaluable_of_compile`).

## Strategy

That a series has the length of the frame passes through operators, lags and checks
(`steady_spans`), and an operand that names what is there gives such a series or is to blame for
the failure (`Operand.Available.meets_series`).  What a session remembers has this length because
it is what definitions mean.  So the length is an invariant of the stack and of the memory, and
the induction on definitions is that of `ensures_seriesOf`.
-/

namespace Screener

variable {env : Environment} {definitions : List Formula} {nodes : List Node}

/-- Whether a series has one entry for each row of the frame. -/
def Environment.Spans (env : Environment) (series : Series) : Prop :=
  series.length = env.frame.size

/-- Indicators that are registered do not say that they are not. -/
theorem IndicatorError.message_ne_notRegistered (e : IndicatorError) :
    e.message ≠ "not registered" := by
  intro h
  -- the first letters differ
  have hfirst := congrArg (fun text : String => text.toList.head?) h
  cases e <;> simp [message, toString] at hfirst

/-- The failures that are left to nodes if all that they name is there, and what is to blame. -/
inductive Blames (env : Environment) (definitions : List Formula) (nodes : List Node) :
    EvaluationError → Prop
  | kinds {op : Operator} {left right : Series.Kind} (hkind : op.kind? left right = none) :
      Blames env definitions nodes (.typeMismatch op.symbol left.word right.word)
  | refusal {c : Call} {indicator : Indicator} {e : IndicatorError}
      (hreaches : Reaches definitions nodes (.call c))
      (hindicator : env.registry.get? c.name = some indicator)
      (hrefuses : indicator env.frame c.arguments = .error e) :
      Blames env definitions nodes (.indicator c.name e.message)
  | rows {c : Call} {indicator : Indicator} {rows : List (Option Float)}
      (hreaches : Reaches definitions nodes (.call c))
      (hindicator : env.registry.get? c.name = some indicator)
      (hrows : indicator env.frame c.arguments = .ok rows)
      (hlength : rows.length ≠ env.frame.size) :
      Blames env definitions nodes (.lengthMismatch env.frame.size rows.length)

theorem Blames.otherThanArity {e : EvaluationError} (hblames : Blames env definitions nodes e) :
    e.OtherThanArity := by
  cases hblames <;> exact nofun

/-! ## Lengths -/

theorem steady_spans (env : Environment) (definitions : List Formula) (nodes : List Node) :
    Steady env env.Spans (Blames env definitions nodes) where
  combine := by
    intro op left right hleft hright
    have hlength : left.length = right.length := hleft.trans hright.symm
    cases hkind : op.kind? left.kind right.kind with
    | none =>
        rw [Series.combine_of_kind_eq_none hlength hkind]
        exact .kinds hkind
    | some kind =>
        obtain ⟨result, hresult, -, hresultLength⟩ := Series.combine_of_kind hlength hkind
        rw [hresult]
        exact hresultLength.trans hleft
  shift := by
    intro periods series hseries
    exact (Series.length_shift series periods).trans hseries
  checkLength := by
    intro series hseries
    have hlength : series.length = env.frame.size := hseries
    rw [Environment.checkLength, if_pos hlength]
    exact hseries

/-- An operand that names what is there gives a series of the length of the frame, or is to
blame. -/
theorem Operand.Available.meets_series {o : Operand} {next : Nat}
    (havailable : o.Available env.registry next) (hreaches : Reaches definitions nodes o)
    (hnone : o.definition? = none) (definition : Nat → Except EvaluationError Series) :
    Meets env.Spans (Blames env definitions nodes) (o.series env env.compute definition) := by
  have hsteady := steady_spans env definitions nodes
  rw [series]
  simp only [settle_eq]
  cases o with
  | literal value =>
      have hlength : (Series.broadcast value env.frame.size).length = env.frame.size :=
        List.length_replicate
      exact hsteady.checkLength hlength
  | column name =>
      have hcolumn := (env.frame.mem_columns_iff name).mp havailable
      rw [Frame.column?, Option.isSome_map] at hcolumn
      obtain ⟨read, hread⟩ := Option.isSome_iff_exists.mp hcolumn
      have hlength : (Series.ofNumbers (env.frame.bars.map read)).length = env.frame.size := by
        simp [Series.ofNumbers, Series.length, Frame.size]
      rw [content, settle_eq, Frame.column?, hread]
      exact hsteady.checkLength hlength
  | call c =>
      obtain ⟨indicator, hindicator⟩ := Option.isSome_iff_exists.mp havailable
      rw [content, Environment.compute, hindicator]
      dsimp only
      cases hrun : indicator env.frame c.arguments with
      | error e => exact .refusal hreaches hindicator hrun
      | ok rows =>
          show Meets _ _ (env.checkLength (.numbers rows))
          by_cases hlength : rows.length = env.frame.size
          · exact hsteady.checkLength hlength
          · have hdiffers : (Series.numbers rows).length ≠ env.frame.size := hlength
            rw [Environment.checkLength, if_neg hdiffers]
            exact .rows hreaches hindicator hrun hlength
  | reference name number => cases hnone
  | lag name periods number => cases hnone

namespace Environment

theorem spans_of_definition_eq_ok {number : Nat} {series : Series}
    (hmeans : env.definition definitions number = .ok series) : env.Spans series := by
  induction definitions with
  | nil => cases hmeans
  | cons formula earlier ih =>
      rw [definition] at hmeans
      split at hmeans
      · exact env.length_of_meaning_eq_ok hmeans
      · exact ih hmeans

end Environment

theorem Progress.Sound.remembers {progress : Progress} (hsound : progress.Sound env definitions) :
    progress.Remembers env.Spans :=
  fun number _ hlookup => Environment.spans_of_definition_eq_ok (hsound number _ hlookup)

/-! ## Formulas -/

/-- A formula that names what is there fails only if the check of its operators does or something
is to blame, and its series spans the frame otherwise. -/
theorem ensures_evaluate_of_available (hgrounded : Grounded env.registry definitions)
    {formula : Formula} (havailable : ∀ o, .operand o ∈ formula.nodes →
      o.Available env.registry definitions.length) :
    Evaluation.Ensures (Progress.Remembers env.Spans) env.Spans
      (fun e => formula.checkArity = .error e ∨ Blames env definitions formula.nodes e)
      (env.evaluate definitions formula) := by
  apply ensures_evaluate (steady_spans env definitions formula.nodes)
  · intro o hmem number hnumber
    exact hgrounded.checked ((havailable o hmem).lt hnumber)
  · intro o definition hreaches hnone
    have hreached := hgrounded.available_of_reaches havailable hreaches
    exact ensures_leaf hnone (hreached.meets_series hreaches hnone fun _ => .ok default) definition

/-- What the last operator gives is what the nodes are reduced to. -/
theorem kind_of_reduce_eq_ok {operand : Operand → Evaluation Series} {op : Operator}
    (hlast : nodes.getLast? = some (.operator op)) {progress ended : Progress} {series : Series}
    (hrun : (reduce operand nodes []).run.run progress = (.ok series, ended)) :
    series.kind = op.gives := by
  obtain ⟨before, rfl⟩ := List.getLast?_eq_some_iff.mp hlast
  rw [reduce_append_push] at hrun
  obtain ⟨stack, reached, -, hoperator⟩ := Evaluation.exists_of_run_bind_eq_ok hrun
  match stack with
  | [] => cases hoperator
  | [_] => cases hoperator
  | right :: left :: below =>
      obtain ⟨result, _, hcombine, hend⟩ := Evaluation.exists_of_run_bind_eq_ok hoperator
      rw [Evaluation.run_settle] at hcombine
      have hresult : Series.combine op left right = .ok result := congrArg Prod.fst hcombine
      match below with
      | [] =>
          cases hend
          exact Series.kind_of_combine_eq_ok hresult
      | _ :: _ => cases hend

namespace Session

/-- What is sure of the evaluation of a formula. -/
structure Evaluable (session : Session) (formula : Formula) : Prop where
  bound (name : String) : (session.evaluateFormula formula).1 ≠ .error (.unboundColumn name)
  registered (name : String) :
    (session.evaluateFormula formula).1 ≠ .error (.indicator name "not registered")
  /-- The formula fails for want of values only if it does not pass the check itself. -/
  operands {values : Nat}
    (hresult : (session.evaluateFormula formula).1 = .error (.invalidExpression values)) :
    formula.checkArity = .error (.invalidExpression values)
  /-- A definition that it reaches never does, whatever is remembered. -/
  definitions {o : Operand} {number : Nat}
    (hreaches : Reaches session.bindings.formulas formula.nodes o)
    (hnumber : o.definition? = some number) (progress : Progress) (values : Nat) :
    ((session.env.seriesOf session.bindings.formulas number).run.run progress).1 ≠
      .error (.invalidExpression values)
  /-- A column of another length than the frame comes from an indicator. -/
  lengths {expected actual : Nat}
    (hresult : (session.evaluateFormula formula).1 = .error (.lengthMismatch expected actual)) :
    ∃ c indicator rows, Reaches session.bindings.formulas formula.nodes (.call c) ∧
      session.env.registry.get? c.name = some indicator ∧
      indicator session.env.frame c.arguments = .ok rows ∧
      rows.length ≠ session.env.frame.size ∧
      expected = session.env.frame.size ∧ actual = rows.length
  rows {series : Series} (hresult : (session.evaluateFormula formula).1 = .ok series) :
    series.length = session.env.frame.size
  kind {series : Series} {op : Operator}
    (hresult : (session.evaluateFormula formula).1 = .ok series)
    (hlast : formula.nodes.getLast? = some (.operator op)) : series.kind = op.gives

variable {session : Session} {formula : Formula}

theorem evaluable_of_available (hsound : session.Sound) (hgrounded : session.IsGrounded)
    (havailable : ∀ o, .operand o ∈ formula.nodes →
      o.Available session.env.registry session.bindings.formulas.length) :
    session.Evaluable formula := by
  obtain ⟨-, hmeets⟩ := ensures_evaluate_of_available hgrounded havailable session.progress
    hsound.remembers
  rw [← evaluateFormula_fst] at hmeets
  have hfailure : ∀ e, (session.evaluateFormula formula).1 = .error e →
      formula.checkArity = .error e ∨
        Blames session.env session.bindings.formulas formula.nodes e := by
    intro e hresult
    rw [hresult] at hmeets
    exact hmeets
  -- the check of operators fails for want of values only
  have hblames : ∀ e, (session.evaluateFormula formula).1 = .error e → e.OtherThanArity →
      Blames session.env session.bindings.formulas formula.nodes e := by
    intro e hresult hother
    refine (hfailure e hresult).resolve_left fun herror => ?_
    obtain ⟨values, _, _, heq, -⟩ := Formula.exists_offends_of_arityFrom herror
    exact hother values heq
  constructor
  · intro name hresult
    cases hblames _ hresult fun _ => nofun
  · intro name hresult
    have hrefusal := hblames _ hresult fun _ => nofun
    generalize hreason : "not registered" = reason at hrefusal
    cases hrefusal with
    | refusal _ _ _ => exact IndicatorError.message_ne_notRegistered _ hreason.symm
  · intro values hresult
    refine (hfailure _ hresult).resolve_right fun hblame => ?_
    exact hblame.otherThanArity values rfl
  · intro o number hreaches hnumber progress values hresult
    have hlt := (hgrounded.available_of_reaches havailable hreaches).lt hnumber
    obtain ⟨-, hother⟩ := ensures_seriesOf_otherThanArity (hgrounded.checked hlt) progress
      progress.remembers_true
    rw [hresult] at hother
    exact hother values rfl
  · intro expected actual hresult
    cases hblames _ hresult fun _ => nofun with
    | rows hreaches hindicator hrows hlength =>
        exact ⟨_, _, _, hreaches, hindicator, hrows, hlength, rfl, rfl⟩
  · intro series hresult
    rw [hresult] at hmeets
    exact hmeets
  · intro series op hresult hlast
    exact kind_of_reduce_eq_ok hlast (Prod.ext hresult rfl)

/-- **What compiles can be evaluated**, at once and whatever is asked in between. -/
theorem evaluable_of_compile (frame : Frame) (registry : Registry) (questions later : List Question)
    {source : String} {formula : Formula}
    (hcompile : ((start frame registry).asked questions).compile source = .ok formula) :
    ((start frame registry).asked (questions ++ later)).Evaluable formula := by
  have horderly := orderly_asked (orderly_start frame registry) questions
  have hlater := orderly_asked (orderly_start frame registry) (questions ++ later)
  refine evaluable_of_available hlater.sound (isGrounded_start_asked frame registry _) ?_
  intro o hmem
  have hcontinues := continues_asked ((start frame registry).asked questions) later
  have havailable := hcontinues.available horderly.bounded hcompile hmem
  rw [asked, List.foldl_append]
  exact havailable

/-- A comparison with a lag of a name goes on to be one when the name has got another definition. -/
theorem evaluable_of_compile_redefined :
    let source := "range.shift(1) > range AND close > open"
    let questions : List Question := [.define "range" "high - low"]
    let later : List Question := [.evaluate "range > close", .define "range" "high > low"]
    let session := (start threeRises .empty).asked (questions ++ later)
    ∃ formula series, ((start threeRises .empty).asked questions).compile source = .ok formula ∧
      session.Evaluable formula ∧ (session.evaluateFormula formula).1 = .ok series ∧
      series.kind = .boolean := by
  intro source questions later session
  let compiled := ((start threeRises .empty).asked questions).compile source
  have hvalue : (compiled.bind fun formula =>
      (session.evaluateFormula formula).1.mapError fun _ => ⟨.emptyExpression, 0⟩).map Series.kind =
        .ok .boolean := by
    decide +kernel
  obtain ⟨series, hseries, hkind⟩ := map_eq_ok hvalue
  obtain ⟨formula, hcompile, hresult⟩ := bind_eq_ok hseries
  refine ⟨formula, series, hcompile, ?_, mapError_eq_ok hresult, hkind⟩
  exact evaluable_of_compile threeRises .empty questions later hcompile

end Session

end Screener
