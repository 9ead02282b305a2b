import Screener.Formula.Meaning
import Screener.Formula.Postfix

/-!
# Sessions

In a session formulas are defined and evaluated one after another on one frame.  The series of a
definition is kept once it has been found, so that a definition is reduced at most once however
often it is referred to, and the calls of indicators are recorded as they are made.
-/

namespace Screener

/-- What a session has found out so far. -/
structure Progress where
  /-- The series of the definitions that have been reduced. -/
  found : List (Nat × Series) := []
  /-- The calls that have been made, latest first. -/
  calls : List Call := []

/-- A step of an evaluation; what was found before a failure is kept. -/
abbrev Evaluation := ExceptT EvaluationError (StateM Progress)

namespace Environment

/-- Makes a call and records it. -/
def makeCall (env : Environment) (call : Call) : Evaluation Series := do
  modify fun progress => { progress with calls := call :: progress.calls }
  settle (env.compute call)

/-- The series of a numbered definition, reduced only if it has not been found before. -/
def seriesOf (env : Environment) : List Formula → Nat → Evaluation Series
  | [], _ => throw (.invalidExpression 0)
  | formula :: earlier, number =>
    if number = earlier.length then do
      match (← get).found.lookup number with
      | some series => return series
      | none =>
        let series ←
          reduce (Operand.series env env.makeCall (env.seriesOf earlier)) formula.nodes []
        modify fun progress => { progress with found := (number, series) :: progress.found }
        return series
    else env.seriesOf earlier number

/-- The series of a formula whose references are among `definitions`. -/
def evaluate (env : Environment) (definitions : List Formula) (formula : Formula) :
    Evaluation Series :=
  reduce (Operand.series env env.makeCall (env.seriesOf definitions)) formula.nodes []

end Environment

/-- Definitions and findings on one frame with one registry. -/
structure Session where
  env : Environment
  bindings : Bindings := .empty
  progress : Progress := {}

namespace Session

/-- A session without definitions. -/
def start (frame : Frame) (registry : Registry) : Session := { env := ⟨frame, registry⟩ }

/-- The names that a formula may use now. -/
def scope (session : Session) : Scope := ⟨session.env.registry, session.bindings⟩

/-- Compiles a text with the definitions made so far. -/
def compile (session : Session) (source : String) : Except CompileError Formula :=
  Formula.compile session.scope source

/-- Makes a name stand for a text.  The text must reduce to one value, but it is not evaluated. -/
def define (session : Session) (name source : String) : Except ExpressionError Session := do
  let formula ← (session.compile source).mapError .compile
  formula.checkArity.mapError .evaluation
  return { session with bindings := session.bindings.define name formula }

/-- Evaluates a compiled formula; the session afterwards remembers what was found. -/
def evaluateFormula (session : Session) (formula : Formula) :
    Except EvaluationError Series × Session :=
  let (result, progress) :=
    (session.env.evaluate session.bindings.formulas formula).run.run session.progress
  (result, { session with progress })

/-- Compiles and evaluates a text. -/
def evaluate (session : Session) (source : String) : Except ExpressionError Series × Session :=
  match session.compile source with
  | .error e => (.error (.compile e), session)
  | .ok formula =>
    let (result, session) := session.evaluateFormula formula
    (result.mapError .evaluation, session)

/-- A series that decides rows. -/
def condition (series : Series) : Except ExpressionError Series :=
  match series.kind with
  | .boolean => .ok series
  | .number => .error (.evaluation (.notBoolean series.kind.word))

/-- Compiles and evaluates a text that must give truth values. -/
def evaluateCondition (session : Session) (source : String) :
    Except ExpressionError Series × Session :=
  let (result, session) := session.evaluate source
  (result.bind condition, session)

end Session

end Screener
