import Screener.File.SystemError
import Screener.Formula.Error
import Screener.Text.Quoted

/-!
# Failures

What can go wrong in a run, each with its wording and with the exit status that tells it to the
caller.  A part of the program may also crash; a task that crashes fails, and whoever waits for it
learns why.
-/

namespace Screener

/-- Why a run fails. -/
inductive Failure where
  | storage (reason : String)
  | dataSource (ticker reason : String)
  | configParse (file reason : String)
  | configMissing (sectionName key : String)
  | configInvalid (sectionName key reason : String)
  | expression (context : String) (cause : ExpressionError)
  | watchlistMissing (strategy : Int)
  | emptyUniverse
  | io (error : SystemError)
  deriving Repr, DecidableEq

namespace Failure

/-- The wording of a failure. -/
def message : Failure → String
  | storage reason => "storage error: " ++ reason
  | dataSource ticker reason => "data source error for " ++ ticker ++ ": " ++ reason
  | configParse file reason => "config parse error in " ++ file ++ ": " ++ reason
  | configMissing sectionName key => "missing config key [" ++ sectionName ++ "] " ++ key
  | configInvalid sectionName key reason =>
    "invalid config value [" ++ sectionName ++ "] " ++ key ++ ": " ++ reason
  | expression context cause => "invalid expression in " ++ context ++ ": " ++ cause.message
  | watchlistMissing strategy =>
    "no watchlist stored for strategy " ++ toString strategy ++ "; run the first scan first"
  | emptyUniverse => "empty ticker universe"
  | io error => error.message

/-- The exit status of a run that ends with a failure. -/
def exitStatus : Failure → Nat
  | io _ => 1
  | configParse .. | configMissing .. | configInvalid .. => 2
  | storage _ => 3
  | expression .. => 4
  | dataSource .. | watchlistMissing _ | emptyUniverse => 5

/-- Every failure has a status of its group, and none has that of success. -/
theorem exitStatus_pos (failure : Failure) : 0 < failure.exitStatus := by
  cases failure <;> simp [exitStatus]

end Failure

/-- Why a part of the program stops before its end.  Not every crash has a message. -/
inductive Stop where
  | failure (failure : Failure)
  | crash (message : Option String)
  deriving Repr, DecidableEq

/-- A value, or why there is none. -/
abbrev Attempt := Except Stop

/-- What is said of a task that crashed.  The name of the task is the one that the system has given
it. -/
def crashReason (task : String) : Option String → String
  | some message => "task " ++ task ++ " panicked with message " ++ Text.quoted message
  | none => "task " ++ task ++ " panicked"

/-- A failure as the end of an attempt. -/
def fail {α : Type} (failure : Failure) : Attempt α := .error (.failure failure)

end Screener
