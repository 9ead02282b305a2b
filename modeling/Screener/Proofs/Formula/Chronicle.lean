import Screener.Proofs.Formula.Ensures

/-!
# Chronicles of evaluations

What an evaluation does can be written down on the way: the calls, each for the text that is
evaluated or for the definition in whose nodes it stands, and the definitions that have been reduced
(`Environment.chronicle`).  An evaluation does not look at its chronicle, so it ends as without one
and has found and called the same (`follows_chronicle`).

What the steps of an evaluation keep true of a chronicle, the evaluation keeps
(`Chronicled.Preserves`).
-/

namespace Screener

/-- What happens while texts are evaluated, with the number of a definition, if it happens for one
and not for the text itself. -/
inductive Event where
  | call (owner : Option Nat) (made : Call)
  | reduced (number : Nat)

namespace Event

/-- The definition that an event is about. -/
def definition? : Event → Option Nat
  | call owner _ => owner
  | reduced number => some number

/-- The call that is made. -/
def call? : Event → Option Call
  | call _ made => some made
  | reduced _ => none

/-- The call that is made for a definition or for a text. -/
def callFor? (owner : Option Nat) (event : Event) : Option Call :=
  if event.definition? = owner then event.call? else none

end Event

/-- What has been found, and all that has happened, latest first. -/
structure Chronicle where
  progress : Progress
  events : List Event

/-- A step of an evaluation that is written down. -/
abbrev Chronicled := ExceptT EvaluationError (StateM Chronicle)

namespace Environment

/-- Makes a call for a definition or a text. -/
def makeCallFor (env : Environment) (owner : Option Nat) (c : Call) : Chronicled Series := do
  modify fun chronicle =>
    { progress := { chronicle.progress with calls := c :: chronicle.progress.calls }
      events := .call owner c :: chronicle.events }
  settle (env.compute c)

/-- The series of a numbered definition, reduced only if it has not been found before. -/
def chronicledSeries (env : Environment) : List Formula → Nat → Chronicled Series
  | [], _ => throw (.invalidExpression 0)
  | formula :: earlier, number =>
    if number = earlier.length then do
      match (← get).progress.found.lookup number with
      | some series => return series
      | none =>
        let series ← reduce
          (Operand.series env (env.makeCallFor (some number)) (env.chronicledSeries earlier))
          formula.nodes []
        modify fun chronicle =>
          { progress := { chronicle.progress with
              found := (number, series) :: chronicle.progress.found }
            events := .reduced number :: chronicle.events }
        return series
    else env.chronicledSeries earlier number

/-- The series of a formula whose references are among `definitions`. -/
def chronicle (env : Environment) (definitions : List Formula) (formula : Formula) :
    Chronicled Series :=
  reduce (Operand.series env (env.makeCallFor none) (env.chronicledSeries definitions))
    formula.nodes []

end Environment

namespace Chronicled

variable {α β : Type}

theorem run_bind (first : Chronicled α) (next : α → Chronicled β) (chronicle : Chronicle) :
    (first >>= next).run.run chronicle =
      match first.run.run chronicle with
      | (.ok value, chronicle) => (next value).run.run chronicle
      | (.error e, chronicle) => (.error e, chronicle) := by
  rw [ExceptT.run_bind, StateT.run_bind]
  cases first.run.run chronicle with
  | mk result chronicle => cases result <;> rfl

theorem run_get_bind (next : Chronicle → Chronicled α) (chronicle : Chronicle) :
    (get >>= next).run.run chronicle = (next chronicle).run.run chronicle := rfl

theorem run_settle (result : Except EvaluationError α) (chronicle : Chronicle) :
    (settle result : Chronicled α).run.run chronicle = (result, chronicle) := by
  cases result <;> rfl

/-! ## The evaluation is the same with a chronicle -/

/-- The computation with a chronicle ends as the one without, and has found and called the same. -/
def Follows (chronicled : Chronicled α) (plain : Evaluation α) : Prop :=
  ∀ chronicle : Chronicle,
    (chronicled.run.run chronicle).1 = (plain.run.run chronicle.progress).1 ∧
      (chronicled.run.run chronicle).2.progress = (plain.run.run chronicle.progress).2

theorem parallel_follows : Parallel fun α => @Follows α where
  pure _ _ := ⟨rfl, rfl⟩
  throw _ _ := ⟨rfl, rfl⟩
  bind := by
    intro α β first plain next next' hfirst hnext chronicle
    obtain ⟨hresult, hprogress⟩ := hfirst chronicle
    rw [run_bind, Evaluation.run_bind]
    rcases hrun : first.run.run chronicle with ⟨result, reached⟩
    rcases hplain : plain.run.run chronicle.progress with ⟨result', progress⟩
    rw [hrun, hplain] at hresult hprogress
    obtain rfl : result = result' := hresult
    obtain rfl : reached.progress = progress := hprogress
    cases result with
    | ok value => exact hnext value reached
    | error e => exact ⟨rfl, rfl⟩

end Chronicled

open Chronicled (Follows parallel_follows)

variable (env : Environment)

theorem follows_makeCallFor (owner : Option Nat) (c : Call) :
    Follows (env.makeCallFor owner c) (env.makeCall c) := by
  intro chronicle
  have hsettle := parallel_follows.settle (env.compute c)
  exact hsettle ⟨{ chronicle.progress with calls := c :: chronicle.progress.calls },
    .call owner c :: chronicle.events⟩

theorem follows_reduce {definition : Nat → Chronicled Series}
    {definition' : Nat → Evaluation Series}
    (hdefinition : ∀ number, Follows (definition number) (definition' number))
    (owner : Option Nat) (nodes : List Node) :
    Follows (reduce (Operand.series env (env.makeCallFor owner) definition) nodes [])
      (reduce (Operand.series env env.makeCall definition') nodes []) :=
  parallel_follows.reduce
    (fun o _ => parallel_follows.series env (follows_makeCallFor env owner) hdefinition o) []

theorem follows_chronicledSeries (definitions : List Formula) (number : Nat) :
    Follows (env.chronicledSeries definitions number) (env.seriesOf definitions number) := by
  induction definitions generalizing number with
  | nil => exact parallel_follows.throw _
  | cons formula earlier ih =>
      unfold Environment.chronicledSeries Environment.seriesOf
      split
      · intro chronicle
        rw [Chronicled.run_get_bind, Evaluation.run_get_bind]
        cases hlookup : chronicle.progress.found.lookup number with
        | some series => exact ⟨rfl, rfl⟩
        | none =>
            have hreduce := follows_reduce env ih (some number) formula.nodes
            refine parallel_follows.bind hreduce (fun series => ?_) chronicle
            exact fun chronicle => ⟨rfl, rfl⟩
      · exact ih number

/-- An evaluation with a chronicle is the evaluation. -/
theorem follows_chronicle (definitions : List Formula) (formula : Formula) :
    Follows (env.chronicle definitions formula) (env.evaluate definitions formula) :=
  follows_reduce env (follows_chronicledSeries env definitions) none formula.nodes

/-! ## What evaluations keep true of their chronicles -/

namespace Chronicled

variable {α β : Type} {keeps : Chronicle → Prop}

/-- Wherever the condition is kept, the computation keeps it, whether or not it ends with a value. -/
def Preserves (keeps : Chronicle → Prop) (computation : Chronicled α) : Prop :=
  ∀ chronicle, keeps chronicle → keeps (computation.run.run chronicle).2

theorem Preserves.bind {first : Chronicled α} {next : α → Chronicled β}
    (hfirst : Preserves keeps first) (hnext : ∀ value, Preserves keeps (next value)) :
    Preserves keeps (first >>= next) := by
  intro chronicle hkeeps
  have hreached := hfirst chronicle hkeeps
  rw [run_bind]
  rcases hrun : first.run.run chronicle with ⟨result, reached⟩
  rw [hrun] at hreached
  cases result with
  | ok value => exact hnext value reached hreached
  | error e => exact hreached

theorem parallel_preserves (keeps : Chronicle → Prop) :
    Parallel fun α (computation _ : Chronicled α) => Preserves keeps computation where
  pure _ _ hkeeps := hkeeps
  throw _ _ hkeeps := hkeeps
  bind hfirst hnext := hfirst.bind hnext

theorem Preserves.settle (result : Except EvaluationError α) :
    Preserves keeps (Screener.settle result) :=
  (parallel_preserves keeps).settle result

/-- A call keeps what writing it down keeps. -/
theorem preserves_makeCallFor {owner : Option Nat} {c : Call}
    (hcall : ∀ chronicle : Chronicle, keeps chronicle →
      keeps ⟨{ chronicle.progress with calls := c :: chronicle.progress.calls },
        .call owner c :: chronicle.events⟩) : Preserves keeps (env.makeCallFor owner c) := by
  intro chronicle hkeeps
  exact Preserves.settle (env.compute c) _ (hcall chronicle hkeeps)

theorem preserves_reduce {call : Call → Chronicled Series} {definition : Nat → Chronicled Series}
    (hcall : ∀ c, Preserves keeps (call c))
    (hdefinition : ∀ number, Preserves keeps (definition number)) (nodes : List Node) :
    Preserves keeps (reduce (Operand.series env call definition) nodes []) := by
  let operand := Operand.series env call definition
  have hoperand (o : Operand) := @Parallel.series _ _ _ _ _ _ _ (parallel_preserves keeps) env
    call call definition definition hcall hdefinition o
  exact @Parallel.reduce _ _ _ _ _ _ _ (parallel_preserves keeps) operand operand nodes
    (fun o _ => hoperand o) []

end Chronicled

end Screener
