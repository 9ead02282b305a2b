import Screener.Proofs.Formula.Availability
import Screener.Proofs.Formula.Registries

/-!
# What has been found is not looked at again

Once the series of a definition has been found, no later step of a session looks at its nodes: if
the definition had any others, every later answer would be the same and so would be the calls that
are made (`Session.Recalls`).  So no call of the definition is ever made again, by whichever name
or lag it is referred to and whatever is asked.

## Strategy

Two sessions whose definitions differ only where a series has been found (`Agreed`) do the same as
long as these series are kept (`Evaluation.Same`).  The steps of a reduction keep this
(`parallel_same`), and for references it is an induction on the definitions (`same_seriesOf`): the
series of a definition in which the two differ is taken from the memory in both.
-/

namespace Screener

/-- Whether the series in a memory have been kept. -/
def Progress.Keeps (found : List (Nat × Series)) (progress : Progress) : Prop :=
  ∀ number series, found.lookup number = some series →
    progress.found.lookup number = some series

/-- Definitions that may differ only where a series has been found. -/
inductive Agreed (found : List (Nat × Series)) : List Formula → List Formula → Prop
  | nil : Agreed found [] []
  | cons {formula formula' : Formula} {earlier earlier' : List Formula}
      (hformula : found.lookup earlier.length = none → formula' = formula)
      (hearlier : Agreed found earlier earlier') :
      Agreed found (formula :: earlier) (formula' :: earlier')

namespace Agreed

variable {found : List (Nat × Series)}

theorem refl (definitions : List Formula) : Agreed found definitions definitions := by
  induction definitions with
  | nil => exact .nil
  | cons formula earlier ih => exact .cons (fun _ => rfl) ih

theorem length_eq {definitions definitions' : List Formula}
    (hagreed : Agreed found definitions definitions') :
    definitions'.length = definitions.length := by
  induction hagreed with
  | nil => rfl
  | cons _ _ ih => rw [List.length_cons, List.length_cons, ih]

end Agreed

namespace Evaluation

variable {α β : Type} {found : List (Nat × Series)}

/-- Two computations that do the same if the series have been kept, and go on to keep them. -/
def Same (found : List (Nat × Series)) (first second : Evaluation α) : Prop :=
  ∀ progress, progress.Keeps found →
    second.run.run progress = first.run.run progress ∧
      Progress.Keeps found (first.run.run progress).2

namespace Same

theorem pure (value : α) : Same found (Pure.pure value) (Pure.pure value) :=
  fun _ hkeeps => ⟨rfl, hkeeps⟩

theorem throw (e : EvaluationError) :
    Same found (MonadExcept.throw e : Evaluation α) (MonadExcept.throw e) :=
  fun _ hkeeps => ⟨rfl, hkeeps⟩

theorem settle (result : Except EvaluationError α) :
    Same found (Screener.settle result) (Screener.settle result) := by
  intro progress hkeeps
  rw [run_settle]
  exact ⟨rfl, hkeeps⟩

theorem bind {first first' : Evaluation α} {next next' : α → Evaluation β}
    (hfirst : Same found first first') (hnext : ∀ value, Same found (next value) (next' value)) :
    Same found (first >>= next) (first' >>= next') := by
  intro progress hkeeps
  obtain ⟨hsame, hleft⟩ := hfirst progress hkeeps
  rw [run_bind, run_bind, hsame]
  cases hrun : first.run.run progress with
  | mk result reached =>
      rw [hrun] at hleft
      cases result with
      | ok value => exact hnext value reached hleft
      | error e => exact ⟨rfl, hleft⟩

end Same

end Evaluation

open Evaluation (Same)

/-! ## Reductions -/

variable {env : Environment} {found : List (Nat × Series)}

theorem parallel_same (found : List (Nat × Series)) : Parallel fun α => @Same α found where
  pure := Same.pure
  throw := Same.throw
  bind := Same.bind

/-- Recording a call does not touch what has been found. -/
theorem same_makeCall (c : Call) : Same found (env.makeCall c) (env.makeCall c) := by
  intro progress hkeeps
  exact Same.settle (env.compute c) { progress with calls := c :: progress.calls } hkeeps

theorem same_reduce {definition definition' : Nat → Evaluation Series}
    (hdefinition : ∀ number, Same found (definition number) (definition' number))
    (nodes : List Node) :
    Same found (reduce (Operand.series env env.makeCall definition) nodes [])
      (reduce (Operand.series env env.makeCall definition') nodes []) := by
  have hparallel := parallel_same found
  exact hparallel.reduce (fun o _ => hparallel.series env same_makeCall hdefinition o) []

theorem Progress.Keeps.keep {progress : Progress} (hkeeps : progress.Keeps found) {number : Nat}
    (hnew : found.lookup number = none) (series : Series) :
    Progress.Keeps found { progress with found := (number, series) :: progress.found } := by
  intro other value hlookup
  have hother : other ≠ number := by
    rintro rfl
    rw [hnew] at hlookup
    cases hlookup
  rw [List.lookup_cons, beq_false_of_ne hother]
  exact hkeeps other value hlookup

/-- The series of a definition comes from the memory if the definitions differ. -/
theorem same_seriesOf {definitions definitions' : List Formula}
    (hagreed : Agreed found definitions definitions') (number : Nat) :
    Same found (env.seriesOf definitions number) (env.seriesOf definitions' number) := by
  induction hagreed generalizing number with
  | nil => exact .throw _
  | @cons formula formula' earlier earlier' hformula hearlier ih =>
      unfold Environment.seriesOf
      rw [hearlier.length_eq]
      split
      · next hnumber =>
        subst hnumber
        intro progress hkeeps
        rw [Evaluation.run_get_bind, Evaluation.run_get_bind]
        cases hlookup : progress.found.lookup earlier.length with
        | some series => exact ⟨rfl, hkeeps⟩
        | none =>
            have hnew : found.lookup earlier.length = none := by
              cases hfound : found.lookup earlier.length with
              | none => rfl
              | some series =>
                  rw [hkeeps _ _ hfound] at hlookup
                  cases hlookup
            rw [hformula hnew]
            refine (same_reduce ih formula.nodes).bind (fun series => ?_) progress hkeeps
            exact fun progress hkeeps => ⟨rfl, hkeeps.keep hnew series⟩
      · exact ih number

theorem same_evaluate (env : Environment) {definitions definitions' : List Formula}
    (hagreed : Agreed found definitions definitions') (formula : Formula) :
    Same found (env.evaluate definitions formula) (env.evaluate definitions' formula) :=
  same_reduce (same_seriesOf hagreed) formula.nodes

/-- A definition that has been reduced has been found. -/
theorem Environment.lookup_of_seriesOf_eq_ok {definitions : List Formula} {number : Nat}
    {progress ended : Progress} {series : Series}
    (hrun : (env.seriesOf definitions number).run.run progress = (.ok series, ended)) :
    ended.found.lookup number = some series := by
  induction definitions with
  | nil => cases hrun
  | cons formula earlier ih =>
      unfold seriesOf at hrun
      split at hrun
      · rw [Evaluation.run_get_bind] at hrun
        cases hlookup : progress.found.lookup number with
        | some remembered =>
            rw [hlookup] at hrun
            cases hrun
            exact hlookup
        | none =>
            rw [hlookup] at hrun
            obtain ⟨reduced, reached, -, hkept⟩ := Evaluation.exists_of_run_bind_eq_ok hrun
            cases hkept
            rw [List.lookup_cons, beq_self_eq_true]
      · exact ih hrun

/-! ## Sessions -/

/-- Compiling looks at the names of definitions only. -/
theorem Scope.tokenOf_congr_names {scope scope' : Scope}
    (hregistry : scope'.registry = scope.registry)
    (hnames : scope'.bindings.names = scope.bindings.names) (text : String) :
    scope'.tokenOf text = scope.tokenOf text := by
  have hfind : ∀ name, scope'.bindings.find? name = scope.bindings.find? name :=
    fun name => congrArg (List.lookup name) hnames
  simp only [tokenOf, lag, call, hfind, hregistry]

namespace Session

/-- Sessions that know the same names and have found and called the same, and whose definitions may
differ where a series has been found. -/
structure Twin (found : List (Nat × Series)) (session twin : Session) : Prop where
  env : twin.env = session.env
  names : twin.bindings.names = session.bindings.names
  formulas : Agreed found session.bindings.formulas twin.bindings.formulas
  progress : twin.progress = session.progress
  keeps : session.progress.Keeps found

namespace Twin

variable {session twin : Session}

theorem compile_eq (htwin : Twin found session twin) (source : String) :
    twin.compile source = session.compile source := by
  apply Formula.compile_congr
  intro lexeme _
  exact Scope.tokenOf_congr_names (congrArg Environment.registry htwin.env) htwin.names _

theorem define (htwin : Twin found session twin) (name : String) (formula : Formula) :
    Twin found { session with bindings := session.bindings.define name formula }
      { twin with bindings := twin.bindings.define name formula } where
  env := htwin.env
  names := by
    simp only [Bindings.define, Bindings.next, htwin.names, htwin.formulas.length_eq]
  formulas := .cons (fun _ => rfl) htwin.formulas
  progress := htwin.progress
  keeps := htwin.keeps

theorem evaluate (htwin : Twin found session twin) (source : String) :
    (twin.evaluate source).1 = (session.evaluate source).1 ∧
      Twin found (session.evaluate source).2 (twin.evaluate source).2 := by
  rw [Session.evaluate, Session.evaluate, htwin.compile_eq]
  cases session.compile source with
  | error e => exact ⟨rfl, htwin⟩
  | ok formula =>
      obtain ⟨hsame, hkeeps⟩ := same_evaluate session.env htwin.formulas formula session.progress
        htwin.keeps
      have hrun : (twin.env.evaluate twin.bindings.formulas formula).run.run twin.progress =
          (session.env.evaluate session.bindings.formulas formula).run.run session.progress := by
        rw [htwin.env, htwin.progress, hsame]
      refine ⟨congrArg (fun ran => Except.mapError ExpressionError.evaluation ran.1) hrun, ?_⟩
      exact ⟨htwin.env, htwin.names, htwin.formulas, congrArg Prod.snd hrun, hkeeps⟩

theorem ask (htwin : Twin found session twin) (question : Question) :
    (twin.ask question).1 = (session.ask question).1 ∧
      Twin found (session.ask question).2 (twin.ask question).2 := by
  cases question with
  | define name source =>
      have hdefiniens : twin.definiens source = session.definiens source := by
        rw [definiens, definiens, htwin.compile_eq]
      simp only [Session.ask, define_eq_map, hdefiniens]
      cases session.definiens source with
      | error e => exact ⟨rfl, htwin⟩
      | ok formula => exact ⟨rfl, htwin.define name formula⟩
  | evaluate source =>
      obtain ⟨hresult, hnext⟩ := htwin.evaluate source
      exact ⟨congrArg (Except.map some) hresult, hnext⟩
  | condition source =>
      obtain ⟨hresult, hnext⟩ := htwin.evaluate source
      exact ⟨congrArg (fun result => (result.bind Session.condition).map some) hresult, hnext⟩

theorem answers (htwin : Twin found session twin) (questions : List Question) :
    twin.answers questions = session.answers questions := by
  induction questions generalizing session twin with
  | nil => rfl
  | cons question rest ih =>
      obtain ⟨hanswer, hnext⟩ := htwin.ask question
      rw [Session.answers, Session.answers, hanswer, ih hnext]

theorem asked (htwin : Twin found session twin) (questions : List Question) :
    Twin found (session.asked questions) (twin.asked questions) := by
  induction questions generalizing session twin with
  | nil => exact htwin
  | cons question rest ih => exact ih (htwin.ask question).2

end Twin

/-- A session goes on in the same way whatever the definitions are that it has reduced. -/
structure Recalls (session : Session) : Prop where
  /-- What is reduced is found, whatever has been found before. -/
  found {number : Nat} {progress ended : Progress} {series : Series}
    (hrun : (session.env.seriesOf session.bindings.formulas number).run.run progress =
      (.ok series, ended)) : ended.found.lookup number = some series
  /-- What is found is kept. -/
  kept {number : Nat} {series : Series}
    (hfound : session.progress.found.lookup number = some series) (later : List Question) :
    (session.asked later).progress.found.lookup number = some series
  /-- With other definitions where a series has been found, the later answers and calls are the
  same. -/
  unseen {formulas : List Formula}
    (hagreed : Agreed session.progress.found session.bindings.formulas formulas)
    (later : List Question) :
    let twin : Session := { session with bindings := { session.bindings with formulas } }
    twin.answers later = session.answers later ∧
      (twin.asked later).progress = (session.asked later).progress

theorem twin_of_agreed (session : Session) {formulas : List Formula}
    (hagreed : Agreed session.progress.found session.bindings.formulas formulas) :
    Twin session.progress.found session
      { session with bindings := { session.bindings with formulas } } :=
  ⟨rfl, rfl, hagreed, rfl, fun _ _ => id⟩

theorem recalls (session : Session) : session.Recalls where
  found := Environment.lookup_of_seriesOf_eq_ok
  kept := by
    intro number series hfound later
    have htwin := (session.twin_of_agreed (.refl session.bindings.formulas)).asked later
    exact htwin.keeps number series hfound
  unseen := by
    intro formulas hagreed later
    have htwin := session.twin_of_agreed hagreed
    exact ⟨htwin.answers later, (htwin.asked later).progress⟩

end Session

end Screener
