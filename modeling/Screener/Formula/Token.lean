import Screener.Decimal.Reader
import Screener.Formula.Lexeme
import Screener.Formula.Bindings
import Screener.Indicator.Registry

/-!
# Tokens

What a lexeme means.  It is tried in turn as a number, a column, a closing parenthesis, a lag or a
call if it ends in `)`, an operator, an opening parenthesis and a variable; the first that fits
decides, and a lexeme that looks like a lag or a call but is none is an error.
-/

namespace Screener

/-- A lexeme with its meaning. -/
inductive Token where
  | operand (operand : Operand)
  | operator (operator : Operator)
  | opening
  | closing
  deriving Repr, BEq

/-- The names that a formula may use. -/
structure Scope where
  registry : Registry
  bindings : Bindings

namespace Scope

open Text Decimal

/-- A number in a formula: digits with at most one point. -/
def literal? (cs : List Char) : Option Float :=
  if cs.all (fun c => c.isDigit || c = '.') ∧ cs.any Char.isDigit ∧ cs.count '.' ≤ 1 then
    readFloat? cs
  else none

/-- Whether a text contains another. -/
def occurs (needle : List Char) : List Char → Bool
  | [] => needle.isEmpty
  | c :: rest => needle.isPrefixOf (c :: rest) || occurs needle rest

/-- The name and the period of a text of the form `name.shift(period)`. -/
def lagParts? (cs : List Char) : Option (String × Int) := do
  let (name, rest) ← splitFirst '.' cs
  let inner ← [')'].isSuffixOf? (← "shift(".toList.isPrefixOf? rest)
  return (String.ofList name, ← readInt64? inner)

/-- A lag of a variable. -/
def lag (scope : Scope) (text : String) : Except CompileFault Token :=
  match lagParts? text.toList with
  | none => .error (.invalidShift text)
  | some (name, periods) =>
    match scope.bindings.find? name with
    | none => .error (.unknownVariable name)
    | some definition => .ok (.operand (.lag name periods definition))

/-- One argument of a call: a finite number, which may have blank characters around it. -/
def argument (name : String) (cs : List Char) : Except CompileFault Float :=
  match (readFloat? (trim cs)).filter Float.isFinite with
  | some value => .ok value
  | none => .error (.invalidArgument name (String.ofList cs))

/-- The arguments between the parentheses of a call; blank parentheses hold none. -/
def arguments (name : String) (inner : List Char) : Except CompileFault (List Float) :=
  if (trim inner).isEmpty then .ok [] else (inner.splitOn ',').mapM (argument name)

/-- A call of an indicator, its text ending in `)`. -/
def call (scope : Scope) (text : String) : Except CompileFault Token :=
  match splitFirst '(' text.toList with
  | none | some ([], _) => .error (.malformedCall text)
  | some (name, rest) =>
    let name := String.ofList name
    if scope.registry.contains name then
      (arguments name rest.dropLast).map fun values => .operand (.call ⟨name, values⟩)
    else .error (.unknownIndicator name)

/-- The meaning of a lexeme's text. -/
def tokenOf (scope : Scope) (text : String) : Except CompileFault Token :=
  let cs := text.toList
  match literal? cs with
  | some value => .ok (.operand (.literal value))
  | none =>
    if text ∈ Frame.columns then .ok (.operand (.column text))
    else if cs = [')'] then .ok .closing
    else if cs.getLast? = some ')' then
      if '.' ∈ cs ∧ occurs "shift".toList cs then scope.lag text else scope.call text
    else match Operator.ofSymbol? text with
      | some op => .ok (.operator op)
      | none =>
        if cs = ['('] then .ok .opening
        else match scope.bindings.find? text with
          | some definition => .ok (.operand (.reference text definition))
          | none => .error (.unknownToken text)

/-- The meaning of a lexeme; an error stands at the lexeme's position. -/
def classify (scope : Scope) (lexeme : Lexeme) : Except CompileError Token :=
  (scope.tokenOf lexeme.text).mapError fun fault => ⟨fault, lexeme.position⟩

end Scope

end Screener
