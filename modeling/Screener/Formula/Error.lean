/-!
# Errors of formulas

A formula can fail while it is compiled, at a place in its text, or while it is evaluated.  Each
failure is a cause with one wording; `inContext` shows a failure below the text it belongs to.
-/

namespace Screener

/-- What is wrong with the text of a formula. -/
inductive CompileFault where
  | mismatchedParentheses
  | unknownToken (text : String)
  | unknownIndicator (name : String)
  | invalidArgument (function argument : String)
  | malformedCall (text : String)
  | unknownVariable (name : String)
  | invalidShift (text : String)
  | emptyExpression
  deriving Repr, DecidableEq

/-- The wording of a fault. -/
def CompileFault.message : CompileFault → String
  | .mismatchedParentheses => "mismatched parentheses"
  | .unknownToken text => "unknown token: " ++ text
  | .unknownIndicator name => "unknown indicator function: " ++ name
  | .invalidArgument function argument => "invalid argument '" ++ argument ++ "' for " ++ function
  | .malformedCall text => "malformed call: " ++ text
  | .unknownVariable name => "unknown variable for shift: " ++ name
  | .invalidShift text => "invalid shift period in " ++ text
  | .emptyExpression => "empty expression"

/-- A fault and the byte of the text at which its lexeme starts. -/
structure CompileError where
  fault : CompileFault
  position : Nat
  deriving Repr, DecidableEq

/-- The wording of a compile error. -/
def CompileError.message (e : CompileError) : String :=
  "compile error at position " ++ toString e.position ++ ": " ++ e.fault.message

/-- The text, a caret after as many spaces as the position says, and the wording. -/
def CompileError.inContext (e : CompileError) (text : String) : String :=
  text ++ "\n" ++ String.ofList (List.replicate e.position ' ') ++ "^\n" ++ e.message

/-- Why a compiled formula has no value.  Operators and kinds of series are named as in the
messages. -/
inductive EvaluationError where
  | invalidExpression (values : Nat)
  | typeMismatch (operator left right : String)
  | unboundColumn (name : String)
  | lengthMismatch (expected actual : Nat)
  | indicator (name reason : String)
  | notBoolean (found : String)
  deriving Repr, DecidableEq

/-- The wording of an evaluation error. -/
def EvaluationError.message : EvaluationError → String
  | .invalidExpression values =>
    "invalid expression: reduced to " ++ toString values ++ " values instead of one"
  | .typeMismatch operator left right =>
    "operator " ++ operator ++ " cannot be applied to " ++ left ++ " and " ++ right
  | .unboundColumn name => "column " ++ name ++ " is not bound in this frame"
  | .lengthMismatch expected actual =>
    "column length mismatch: expected " ++ toString expected ++ " rows, got " ++ toString actual
  | .indicator name reason => "indicator " ++ name ++ " failed: " ++ reason
  | .notBoolean found => "condition must evaluate to a boolean column, got " ++ found

/-- A failure of either stage. -/
inductive ExpressionError where
  | compile (error : CompileError)
  | evaluation (error : EvaluationError)
  deriving Repr, DecidableEq

namespace ExpressionError

/-- The wording of a failure. -/
def message : ExpressionError → String
  | compile e => e.message
  | evaluation e => e.message

/-- The failure below the text it belongs to, with a caret if it has a position. -/
def inContext (e : ExpressionError) (text : String) : String :=
  match e with
  | compile e => e.inContext text
  | evaluation e => text ++ "\n" ++ e.message

end ExpressionError

end Screener
