import Screener.Proofs.Formula.Agreement

/-!
# What evaluations ensure

A computation in a session starts from what is remembered and ends with a value or a failure.
`Evaluation.Ensures` says of every start that keeps a condition what the value is like, what the
failure is like, and that the condition is kept.  It passes through the steps of a computation, so
a reduction ensures what its operands and operators ensure, and fails for want of operands only if
the check of its operators says so with the same number (`ensures_reduce`).  For references this
is an induction on the definitions (`ensures_seriesOf`): a definition that passes the check is
reduced to a value or to a failure of an operand or operator that it reaches.  So a formula fails
as one of these or as its own check (`ensures_evaluate`).
-/

namespace Screener

/-- Whether a result is a value or a failure of a certain sort. -/
def Meets {ε α : Type} (value : α → Prop) (failure : ε → Prop) : Except ε α → Prop
  | .ok a => value a
  | .error e => failure e

theorem Meets.weaken {ε α : Type} {value : α → Prop} {failure failure' : ε → Prop}
    {x : Except ε α} (hx : Meets value failure x) (hfailure : ∀ e, failure e → failure' e) :
    Meets value failure' x := by
  cases x with
  | ok a => exact hx
  | error e => exact hfailure e hx

theorem Meets.bind {ε α β : Type} {value : α → Prop} {value' : β → Prop} {failure : ε → Prop}
    {x : Except ε α} {f : α → Except ε β} (hx : Meets value failure x)
    (hf : ∀ a, value a → Meets value' failure (f a)) : Meets value' failure (x >>= f) := by
  cases x with
  | ok a => exact hf a hx
  | error e => exact hx

namespace Evaluation

/-- A computation of two parts that ends with a value has had a value in between. -/
theorem exists_of_run_bind_eq_ok {α β : Type} {first : Evaluation α} {next : α → Evaluation β}
    {progress ended : Progress} {b : β}
    (hrun : (first >>= next).run.run progress = (.ok b, ended)) :
    ∃ a reached, first.run.run progress = (.ok a, reached) ∧
      (next a).run.run reached = (.ok b, ended) := by
  rw [run_bind] at hrun
  cases hfirst : first.run.run progress with
  | mk result reached =>
      rw [hfirst] at hrun
      cases result with
      | ok a => exact ⟨a, reached, rfl, hrun⟩
      | error e => cases hrun

variable {α β : Type} {keeps : Progress → Prop} {failure : EvaluationError → Prop}

/-- Wherever the condition is kept, the computation keeps it and ends as stated. -/
def Ensures (keeps : Progress → Prop) (value : α → Prop) (failure : EvaluationError → Prop)
    (computation : Evaluation α) : Prop :=
  ∀ progress, keeps progress →
    keeps (computation.run.run progress).2 ∧
      Meets value failure (computation.run.run progress).1

namespace Ensures

theorem pure {value : α → Prop} {a : α} (ha : value a) :
    Ensures keeps value failure (Pure.pure a) :=
  fun _ hkeeps => ⟨hkeeps, ha⟩

theorem throw {value : α → Prop} {e : EvaluationError} (he : failure e) :
    Ensures keeps value failure (MonadExcept.throw e) :=
  fun _ hkeeps => ⟨hkeeps, he⟩

theorem settle {value : α → Prop} {result : Except EvaluationError α}
    (hresult : Meets value failure result) :
    Ensures keeps value failure (Screener.settle result) := by
  intro progress hkeeps
  rw [run_settle]
  exact ⟨hkeeps, hresult⟩

theorem weaken {value : α → Prop} {failure' : EvaluationError → Prop}
    {computation : Evaluation α} (hensures : Ensures keeps value failure computation)
    (hfailure : ∀ e, failure e → failure' e) : Ensures keeps value failure' computation := by
  intro progress hkeeps
  obtain ⟨hleft, hmeets⟩ := hensures progress hkeeps
  exact ⟨hleft, hmeets.weaken hfailure⟩

theorem bind {value : α → Prop} {value' : β → Prop} {first : Evaluation α}
    {next : α → Evaluation β} (hfirst : Ensures keeps value failure first)
    (hnext : ∀ a, value a → Ensures keeps value' failure (next a)) :
    Ensures keeps value' failure (first >>= next) := by
  intro progress hkeeps
  obtain ⟨hleft, hmeets⟩ := hfirst progress hkeeps
  rw [run_bind]
  cases hrun : first.run.run progress with
  | mk reached progress' =>
      rw [hrun] at hleft hmeets
      cases reached with
      | ok a => exact hnext a hmeets progress' hleft
      | error e => exact ⟨hleft, hmeets⟩

end Ensures

end Evaluation

open Evaluation (Ensures)

/-! ## Reduction -/

variable {fits : Series → Prop} {failure : EvaluationError → Prop} {keeps : Progress → Prop}

/-- Nodes whose operands and operators end as stated leave a value that fits, or fail for want of
operands as the check of their operators says. -/
theorem ensures_reduce {operand : Operand → Evaluation Series}
    (hcombine : ∀ op left right, fits left → fits right →
      Meets fits failure (Series.combine op left right))
    {nodes : List Node}
    (hoperand : ∀ o, .operand o ∈ nodes → Ensures keeps fits failure (operand o))
    {stack : List Series} (hstack : ∀ series ∈ stack, fits series)
    (harity : ∀ values,
      Formula.arityFrom stack.length nodes = .error (.invalidExpression values) →
        failure (.invalidExpression values)) :
    Ensures keeps fits failure (reduce operand nodes stack) := by
  induction nodes generalizing stack with
  | nil =>
      match stack with
      | [] => exact .throw (harity 0 rfl)
      | [series] => exact .pure (hstack series List.mem_cons_self)
      | _ :: _ :: _ => exact .throw (harity _ rfl)
  | cons node rest ih =>
      have hrest : ∀ o, .operand o ∈ rest → Ensures keeps fits failure (operand o) :=
        fun o hmem => hoperand o (List.mem_cons_of_mem _ hmem)
      cases node with
      | operand o =>
          refine (hoperand o List.mem_cons_self).bind fun series hseries => ih hrest ?_ harity
          exact List.forall_mem_cons.mpr ⟨hseries, hstack⟩
      | operator op =>
          match stack with
          | [] => exact .throw (harity 0 rfl)
          | [_] => exact .throw (harity 1 rfl)
          | right :: left :: below =>
              have hright := hstack right (by simp)
              have hleft := hstack left (by simp)
              rw [reduce]
              refine (Ensures.settle (hcombine op left right hleft hright)).bind
                fun series hseries => ih hrest ?_ ?_
              · refine List.forall_mem_cons.mpr ⟨hseries, fun other hother => ?_⟩
                exact hstack other (by simp [hother])
              · rw [Formula.arityFrom, if_neg (by simp)] at harity
                exact harity

/-! ## Definitions -/

/-- Whether a definition and all that it refers to, however far, have been made and pass the check
of their operators. -/
def Checked : List Formula → Nat → Prop
  | [], _ => False
  | formula :: earlier, number =>
    if number = earlier.length then
      formula.checkArity = .ok () ∧
        ∀ o, .operand o ∈ formula.nodes → ∀ other, o.definition? = some other →
          Checked earlier other
    else Checked earlier number

/-- Whether all that is remembered fits. -/
def Progress.Remembers (fits : Series → Prop) (progress : Progress) : Prop :=
  ∀ number series, progress.found.lookup number = some series → fits series

theorem Progress.Remembers.keep {progress : Progress} (hremembers : progress.Remembers fits)
    {number : Nat} {series : Series} (hseries : fits series) :
    Progress.Remembers fits { progress with found := (number, series) :: progress.found } := by
  intro other value hlookup
  rw [List.lookup_cons] at hlookup
  split at hlookup
  · cases hlookup
    exact hseries
  · exact hremembers other value hlookup

/-- What operators, lags and the check of lengths make of series that fit. -/
structure Steady (env : Environment) (fits : Series → Prop) (failure : EvaluationError → Prop) :
    Prop where
  combine (op : Operator) {left right : Series} (hleft : fits left) (hright : fits right) :
    Meets fits failure (Series.combine op left right)
  shift (periods : Int) {series : Series} (hseries : fits series) : fits (series.shift periods)
  checkLength {series : Series} (hseries : fits series) :
    Meets fits failure (env.checkLength series)

variable {env : Environment} {definitions : List Formula}

/-- The call that an operand is. -/
def Operand.call? : Operand → Option Call
  | .call c => some c
  | _ => none

/-- An operand that refers to no definition is what it is without a memory, and is recorded if it
is a call. -/
theorem Operand.run_series {o : Operand} (hnone : o.definition? = none)
    (definition : Nat → Evaluation Series) (definition' : Nat → Except EvaluationError Series)
    (progress : Progress) :
    (o.series env env.makeCall definition).run.run progress =
      (o.series env env.compute definition',
        { progress with calls := o.call?.toList ++ progress.calls }) := by
  have hcheck : ∀ (result : Except EvaluationError Series) (reached : Progress),
      ((settle result : Evaluation Series) >>= fun series =>
        settle (env.checkLength series)).run.run reached =
          (result >>= fun series => settle (env.checkLength series), reached) := by
    intro result reached
    rw [Evaluation.run_bind, Evaluation.run_settle]
    cases result with
    | ok series =>
        simp only [Evaluation.run_settle]
        show _ = ((settle (env.checkLength series) : Except EvaluationError Series), reached)
        rw [settle_eq]
    | error e => rfl
  cases o with
  | literal value => exact hcheck (.ok _) progress
  | column name =>
      rw [series, series, content, content, settle_eq]
      exact hcheck _ progress
  | call c => exact hcheck (env.compute c) { progress with calls := c :: progress.calls }
  | reference name number => cases hnone
  | lag name periods number => cases hnone

theorem ensures_leaf {o : Operand} (hnone : o.definition? = none)
    {definition' : Nat → Except EvaluationError Series}
    (hseries : Meets fits failure (o.series env env.compute definition'))
    (definition : Nat → Evaluation Series) :
    Ensures (Progress.Remembers fits) fits failure (o.series env env.makeCall definition) := by
  intro progress hremembers
  rw [Operand.run_series hnone definition definition']
  exact ⟨hremembers, hseries⟩

/-- An operand ends as its definition does, if it refers to one. -/
theorem ensures_series (hsteady : Steady env fits failure) {definition : Nat → Evaluation Series}
    {o : Operand}
    (hleaf : o.definition? = none →
      Ensures keeps fits failure (o.series env env.makeCall definition))
    (hdefinition : ∀ number, o.definition? = some number →
      Ensures keeps fits failure (definition number)) :
    Ensures keeps fits failure (o.series env env.makeCall definition) := by
  have hcheck : ∀ series, fits series →
      Ensures keeps fits failure (settle (env.checkLength series)) :=
    fun series hseries => .settle (hsteady.checkLength hseries)
  cases o with
  | literal value => exact hleaf rfl
  | column name => exact hleaf rfl
  | call c => exact hleaf rfl
  | reference name number => exact (hdefinition number rfl).bind hcheck
  | lag name periods number =>
      refine Ensures.bind ?_ hcheck
      exact (hdefinition number rfl).bind fun series hseries =>
        .pure (hsteady.shift periods hseries)

/-- A definition that passes the check ends as the operands and operators do that it reaches. -/
theorem ensures_seriesOf (hsteady : Steady env fits failure) (later : List Formula)
    {earlier : List Formula} (hdefinitions : later ++ earlier = definitions) {number : Nat}
    (hchecked : Checked earlier number)
    (hleaf : ∀ formula, definitions.reverse[number]? = some formula →
      ∀ o definition, Reaches definitions formula.nodes o → o.definition? = none →
        Ensures (Progress.Remembers fits) fits failure (o.series env env.makeCall definition)) :
    Ensures (Progress.Remembers fits) fits failure (env.seriesOf earlier number) := by
  induction earlier generalizing later number with
  | nil => cases hchecked
  | cons formula earlier ih =>
      have hsplit := (List.append_cons later formula earlier).symm.trans hdefinitions
      unfold Environment.seriesOf
      rw [Checked] at hchecked
      split at hchecked
      · next hnumber =>
        obtain ⟨harity, hcaptured⟩ := hchecked
        rw [if_pos hnumber]
        have hformula := getElem?_reverse_of_append hdefinitions
        rw [← hnumber] at hformula
        have hoperand : ∀ o, .operand o ∈ formula.nodes →
            Ensures (Progress.Remembers fits) fits failure
              (o.series env env.makeCall (env.seriesOf earlier)) := by
          intro o hmem
          refine ensures_series hsteady (hleaf formula hformula o _ (.here hmem)) ?_
          intro other hother
          refine ih _ hsplit (hcaptured o hmem other hother) ?_
          intro inner hinner p definition hreaches
          exact hleaf formula hformula p definition (.through hmem hother hinner hreaches)
        have hreduce : Ensures (Progress.Remembers fits) fits failure
            (reduce (Operand.series env env.makeCall (env.seriesOf earlier)) formula.nodes []) := by
          refine ensures_reduce (fun op left right => hsteady.combine op) hoperand (by simp) ?_
          intro values herror
          rw [Formula.checkArity] at harity
          rw [List.length_nil, harity] at herror
          cases herror
        intro progress hremembers
        rw [Evaluation.run_get_bind]
        -- what is remembered fits, and what is not is reduced and then kept
        cases hlookup : progress.found.lookup number with
        | some series => exact ⟨hremembers, hremembers number series hlookup⟩
        | none =>
            refine (hreduce.bind fun series hseries => ?_) progress hremembers
            exact fun progress hremembers => ⟨hremembers.keep hseries, hseries⟩
      · next hnumber =>
        rw [if_neg hnumber]
        exact ih _ hsplit hchecked hleaf

/-- A formula whose definitions pass the check ends as the operands and operators do that it
reaches, or fails as its own check does. -/
theorem ensures_evaluate (hsteady : Steady env fits failure) {formula : Formula}
    (hchecked : ∀ o, .operand o ∈ formula.nodes → ∀ number, o.definition? = some number →
      Checked definitions number)
    (hleaf : ∀ o definition, Reaches definitions formula.nodes o → o.definition? = none →
      Ensures (Progress.Remembers fits) fits failure (o.series env env.makeCall definition)) :
    Ensures (Progress.Remembers fits) fits (fun e => formula.checkArity = .error e ∨ failure e)
      (env.evaluate definitions formula) := by
  have hoperand : ∀ o, .operand o ∈ formula.nodes →
      Ensures (Progress.Remembers fits) fits failure
        (o.series env env.makeCall (env.seriesOf definitions)) := by
    intro o hmem
    refine ensures_series hsteady (hleaf o _ (.here hmem)) fun number hnumber => ?_
    -- what the definition reaches is reached by the formula
    refine ensures_seriesOf hsteady [] rfl (hchecked o hmem number hnumber) ?_
    intro inner hinner p definition hreaches
    exact hleaf p definition (.through hmem hnumber hinner hreaches)
  refine ensures_reduce ?_ (fun o hmem => (hoperand o hmem).weaken fun e => .inr) nofun ?_
  · intro op left right hleft hright
    exact (hsteady.combine op hleft hright).weaken fun e => .inr
  · intro values harity
    exact .inl harity

end Screener
