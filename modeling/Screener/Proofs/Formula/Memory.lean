import Screener.Formula.Session
import Screener.Proofs.Formula.Parallel
import Screener.Proofs.Formula.Results

/-!
# The memory of a session

A session keeps the series of the definitions that it has reduced.  The memory is sound if each
series in it is what its definition means (`Session.Sound`).  Then an evaluation in the session
gives what the meaning of formulas gives, which has no memory, and leaves a sound memory behind
(`Session.evaluate_of_sound`); a definition leaves it sound too, because a definition means the same
whatever is defined later (`Session.Sound.define`).

## Strategy

`Gives` relates a computation with memory to a result without: started with any sound memory, the
computation ends with that result and a sound memory.  The steps of a reduction keep this relation
(`parallel_gives`), so it holds of the reduction of a list of nodes as soon as it holds of every
operand.  For references it is an induction on the definitions (`gives_seriesOf`): a definition that
is found is what it means by soundness, and one that is not is reduced with references to earlier
definitions.
-/

namespace Screener

/-- Everything that has been found is what its definition means. -/
def Progress.Sound (env : Environment) (definitions : List Formula) (progress : Progress) : Prop :=
  ∀ number series, progress.found.lookup number = some series →
    env.definition definitions number = .ok series

variable {env : Environment} {definitions : List Formula}

theorem settle_eq {α : Type} (result : Except EvaluationError α) :
    (settle result : Except EvaluationError α) = result := by
  cases result <;> rfl

/-! ## Computations with memory that give a result -/

/-- From every sound memory the computation ends with the result and a sound memory. -/
def Gives {α : Type} (env : Environment) (definitions : List Formula) (computation : Evaluation α)
    (result : Except EvaluationError α) : Prop :=
  ∀ progress : Progress, progress.Sound env definitions →
    (computation.run.run progress).1 = result ∧
      Progress.Sound env definitions (computation.run.run progress).2

/-- A computation goes on after a value and stops at a failure, with what has been found. -/
theorem Evaluation.run_bind {α β : Type} (first : Evaluation α) (next : α → Evaluation β)
    (progress : Progress) :
    (first >>= next).run.run progress =
      match first.run.run progress with
      | (.ok value, progress) => (next value).run.run progress
      | (.error e, progress) => (.error e, progress) := by
  rw [ExceptT.run_bind, StateT.run_bind]
  cases first.run.run progress with
  | mk result progress => cases result <;> rfl

theorem Evaluation.run_get_bind {α : Type} (next : Progress → Evaluation α) (progress : Progress) :
    (get >>= next).run.run progress = (next progress).run.run progress := rfl

theorem Evaluation.run_settle {α : Type} (result : Except EvaluationError α) (progress : Progress) :
    (settle result : Evaluation α).run.run progress = (result, progress) := by
  cases result <;> rfl

namespace Gives

theorem pure {α : Type} (value : α) : Gives env definitions (pure value) (.ok value) :=
  fun _ hsound => ⟨rfl, hsound⟩

theorem throw {α : Type} (e : EvaluationError) :
    Gives env definitions (throw e : Evaluation α) (.error e) :=
  fun _ hsound => ⟨rfl, hsound⟩

theorem settle {α : Type} (result : Except EvaluationError α) :
    Gives env definitions (settle result) result := by
  intro progress hsound
  rw [Evaluation.run_settle]
  exact ⟨rfl, hsound⟩

theorem bind {α β : Type} {first : Evaluation α} {result : Except EvaluationError α}
    {next : α → Evaluation β} {rest : α → Except EvaluationError β}
    (hfirst : Gives env definitions first result)
    (hnext : ∀ value, Gives env definitions (next value) (rest value)) :
    Gives env definitions (first >>= next) (result >>= rest) := by
  intro progress hsound
  obtain ⟨hresult, hleft⟩ := hfirst progress hsound
  rw [Evaluation.run_bind]
  cases hrun : first.run.run progress with
  | mk reached progress' =>
      rw [hrun] at hresult hleft
      obtain rfl : reached = result := hresult
      cases reached with
      | ok value => exact hnext value progress' hleft
      | error e => exact ⟨rfl, hleft⟩

end Gives

/-! ## Reduction with memory gives what reduction without gives -/

theorem parallel_gives (env : Environment) (definitions : List Formula) :
    Parallel fun α => @Gives α env definitions where
  pure := Gives.pure
  throw := Gives.throw
  bind := Gives.bind

/-- Recording a call does not touch what has been found. -/
theorem gives_makeCall (call : Call) :
    Gives env definitions (env.makeCall call) (env.compute call) := by
  intro progress hsound
  exact Gives.settle (env.compute call) { progress with calls := call :: progress.calls } hsound

theorem gives_reduce {definition : Nat → Evaluation Series}
    {definitionResult : Nat → Except EvaluationError Series}
    (hdefinition : ∀ number, Gives env definitions (definition number) (definitionResult number))
    (nodes : List Node) :
    Gives env definitions (reduce (Operand.series env env.makeCall definition) nodes [])
      (reduce (Operand.series env env.compute definitionResult) nodes []) := by
  have hparallel := parallel_gives env definitions
  exact hparallel.reduce (fun o _ => hparallel.series env gives_makeCall hdefinition o) []

/-! ## References -/

/-- Definitions mean the same among all definitions as among those made by then. -/
theorem Environment.definition_append (env : Environment) (later : List Formula)
    {earlier : List Formula} {number : Nat} (hnumber : number < earlier.length) :
    env.definition (later ++ earlier) number = env.definition earlier number := by
  induction later with
  | nil => rfl
  | cons formula later ih =>
      have hlt : number < (later ++ earlier).length := by
        rw [List.length_append]
        omega
      rw [List.cons_append, env.definition_cons_of_lt formula hlt, ih]

/-- A definition among others means what its formula means among those before it. -/
theorem Environment.definition_of_append (env : Environment) {later earlier : List Formula}
    {formula : Formula} (hdefinitions : later ++ formula :: earlier = definitions) :
    env.definition definitions earlier.length = env.meaning earlier formula := by
  rw [← hdefinitions, env.definition_append later (by simp), env.definition_length]

theorem Environment.lt_length_of_definition_eq_ok {number : Nat} {series : Series}
    (hmeans : env.definition definitions number = .ok series) : number < definitions.length := by
  induction definitions with
  | nil => cases hmeans
  | cons formula earlier ih =>
      rw [List.length_cons]
      rw [definition] at hmeans
      split at hmeans
      · omega
      · exact Nat.lt_succ_of_lt (ih hmeans)

/-- Keeping what a definition means keeps the memory sound. -/
theorem Progress.Sound.keep {progress : Progress} (hsound : progress.Sound env definitions)
    {number : Nat} {series : Series} (hmeans : env.definition definitions number = .ok series) :
    Progress.Sound env definitions
      { progress with found := (number, series) :: progress.found } := by
  intro other value hlookup
  rw [List.lookup_cons] at hlookup
  split at hlookup
  · next heq =>
    obtain rfl : other = number := by simpa using heq
    cases hlookup
    exact hmeans
  · exact hsound other value hlookup

/-- What a definition means may be kept once it has been computed. -/
theorem Gives.keep {number : Nat} {computation : Evaluation Series}
    {result : Except EvaluationError Series}
    (hcomputation : Gives env definitions computation result)
    (hmeans : env.definition definitions number = result) :
    Gives env definitions
      (do
        let series ← computation
        modify fun progress => { progress with found := (number, series) :: progress.found }
        return series)
      result := by
  intro progress hsound
  obtain ⟨hresult, hleft⟩ := hcomputation progress hsound
  rw [Evaluation.run_bind]
  cases hrun : computation.run.run progress with
  | mk reached progress' =>
      rw [hrun] at hresult hleft
      obtain rfl : reached = result := hresult
      cases reached with
      | ok series => exact ⟨rfl, hleft.keep hmeans⟩
      | error e => exact ⟨rfl, hleft⟩

theorem gives_seriesOf (later : List Formula) {earlier : List Formula}
    (hdefinitions : later ++ earlier = definitions) (number : Nat) :
    Gives env definitions (env.seriesOf earlier number) (env.definition earlier number) := by
  induction earlier generalizing later number with
  | nil => exact .throw _
  | cons formula earlier ih =>
      have hsplit : (later ++ [formula]) ++ earlier = definitions := by
        rw [List.append_assoc]
        exact hdefinitions
      unfold Environment.seriesOf Environment.definition
      split
      · next hnumber =>
        subst hnumber
        have hmeans : env.definition definitions earlier.length =
            reduce (Operand.series env env.compute (env.definition earlier)) formula.nodes [] :=
          env.definition_of_append hdefinitions
        have hreduce := gives_reduce (ih (later ++ [formula]) hsplit) formula.nodes
        rw [← hmeans] at hreduce ⊢
        intro progress hsound
        rw [Evaluation.run_get_bind]
        -- what is remembered is the meaning by soundness; what is not is reduced and then kept
        cases hlookup : progress.found.lookup earlier.length with
        | some series => exact ⟨(hsound _ _ hlookup).symm, hsound⟩
        | none => exact hreduce.keep rfl progress hsound
      · exact ih (later ++ [formula]) hsplit number

/-- In a sound session every formula evaluates to its meaning. -/
theorem gives_evaluate (env : Environment) (definitions : List Formula) (formula : Formula) :
    Gives env definitions (env.evaluate definitions formula) (env.meaning definitions formula) :=
  gives_reduce (gives_seriesOf [] rfl) formula.nodes

/-! ## Sessions -/

namespace Session

/-- Whether the memory of the session holds nothing but what its definitions mean. -/
def Sound (session : Session) : Prop :=
  session.progress.Sound session.env session.bindings.formulas

theorem sound_start (frame : Frame) (registry : Registry) : (start frame registry).Sound :=
  nofun

/-- What a text evaluates to without a memory. -/
def meaning (session : Session) (source : String) : Except ExpressionError Series := do
  let formula ← (session.compile source).mapError .compile
  (session.env.meaning session.bindings.formulas formula).mapError .evaluation

/-- What a text evaluates to that compiles. -/
theorem meaning_of_compile {session : Session} {source : String} {formula : Formula}
    (hcompile : session.compile source = .ok formula) :
    session.meaning source =
      (session.env.meaning session.bindings.formulas formula).mapError .evaluation := by
  rw [meaning, hcompile]
  rfl

/-- An evaluation in a sound session gives the meaning of the text and changes nothing but the
memory, which stays sound. -/
theorem evaluate_of_sound {session : Session} (hsound : session.Sound) (source : String) :
    (session.evaluate source).1 = session.meaning source ∧ (session.evaluate source).2.Sound ∧
      (session.evaluate source).2.env = session.env ∧
      (session.evaluate source).2.bindings = session.bindings := by
  rw [evaluate, meaning]
  cases session.compile source with
  | error e => exact ⟨rfl, hsound, rfl, rfl⟩
  | ok formula =>
      obtain ⟨hresult, hleft⟩ :=
        gives_evaluate session.env session.bindings.formulas formula session.progress hsound
      exact ⟨congrArg (Except.mapError ExpressionError.evaluation) hresult, hleft, rfl, rfl⟩

/-- The formula of a text whose operators find their operands. -/
def definiens (session : Session) (source : String) : Except ExpressionError Formula := do
  let formula ← (session.compile source).mapError .compile
  formula.checkArity.mapError .evaluation
  return formula

theorem compile_of_definiens {session : Session} {source : String} {formula : Formula}
    (hdefiniens : session.definiens source = .ok formula) :
    session.compile source = .ok formula ∧ formula.checkArity = .ok () := by
  obtain ⟨found, hcompile, hrest⟩ := bind_eq_ok hdefiniens
  obtain ⟨_, harity, hfound⟩ := bind_eq_ok hrest
  cases hfound
  exact ⟨mapError_eq_ok hcompile, mapError_eq_ok harity⟩

/-- A definition adds the formula of its text and changes nothing else. -/
theorem define_eq_map (session : Session) (name source : String) :
    session.define name source = (session.definiens source).map fun formula =>
      { session with bindings := session.bindings.define name formula } := by
  rw [define, definiens]
  cases session.compile source with
  | error e => rfl
  | ok formula =>
      show (formula.checkArity.mapError ExpressionError.evaluation >>= fun _ => _) =
        Except.map _ (formula.checkArity.mapError ExpressionError.evaluation >>= fun _ => _)
      cases formula.checkArity <;> rfl

/-- What has been found means the same after a definition. -/
theorem Sound.define {session : Session} (hsound : session.Sound) (name : String)
    (formula : Formula) :
    Sound { session with bindings := session.bindings.define name formula } := by
  intro number series hlookup
  have hmeans := hsound number series hlookup
  have hnumber := Environment.lt_length_of_definition_eq_ok hmeans
  show session.env.definition (formula :: session.bindings.formulas) number = _
  rw [session.env.definition_cons_of_lt formula hnumber, hmeans]

end Session

end Screener
