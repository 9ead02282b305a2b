/-!
# Operators

The twelve binary operators of formulas, their symbols and how tightly they bind.  All of them
associate to the left.
-/

namespace Screener

/-- A binary operator. -/
inductive Operator where
  | add | sub | mul | div
  | gt | ge | lt | le | eq | ne
  | and | or
  deriving Repr, DecidableEq

namespace Operator

/-- All operators. -/
def all : List Operator := [add, sub, mul, div, gt, ge, lt, le, eq, ne, and, or]

/-- How an operator is written. -/
def symbol : Operator → String
  | add => "+"
  | sub => "-"
  | mul => "*"
  | div => "/"
  | gt => ">"
  | ge => ">="
  | lt => "<"
  | le => "<="
  | eq => "=="
  | ne => "!="
  | and => "AND"
  | or => "OR"

/-- The operator that a text is the symbol of. -/
def ofSymbol? (text : String) : Option Operator := all.find? fun op => op.symbol = text

/-- The greater the number, the tighter the operator binds. -/
def precedence : Operator → Int
  | mul | div => 2
  | add | sub => 1
  | gt | ge | lt | le | eq | ne => 0
  | and | or => -1

/-- Reading a symbol back gives the operator. -/
theorem ofSymbol?_symbol (op : Operator) : ofSymbol? op.symbol = some op := by
  cases op <;> decide

theorem ofSymbol?_eq_some_iff {text : String} {op : Operator} :
    ofSymbol? text = some op ↔ text = op.symbol := by
  constructor
  · intro h
    have := List.find?_some h
    simpa [eq_comm] using this
  · rintro rfl
    exact ofSymbol?_symbol op

end Operator

end Screener
