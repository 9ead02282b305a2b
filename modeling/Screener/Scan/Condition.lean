import Screener.Failure
import Screener.Formula.Session
import Screener.Indicator.Standard
import Screener.Strategy

/-!
# Conditions

The two tests of a strategy.  The first is made on a snapshot and may not call indicators; it keeps
the tickers whose row is true.  The second is made on the history of one ticker and looks at its
last row.  A missing entry is not true.
-/

namespace Screener

/-- The tickers of a snapshot for which a condition is true, in the order of the rows. -/
def screenSnapshot (snapshot : Frame) (condition : String) : Except Failure (List String) := do
  let mask ← ((Session.start snapshot .empty).evaluateCondition condition).1.mapError
    (.expression "1st_scan.condition")
  let tickers := snapshot.tickers.getD []
  return (tickers.zipIdx.filter fun (_, row) => mask.isTrueAt row).map Prod.fst

/-- Makes the declarations of a rule in their order. -/
def Session.declare (session : Session) (declaration : Declaration) : Except Failure Session :=
  (session.define declaration.name declaration.expression).mapError
    (.expression ("variable " ++ declaration.name))

/-- Whether the condition of a rule is true in the last row, after its declarations. -/
def matchesLatestBar (frame : Frame) (registry : Registry) (rule : HistoryRule) :
    Except Failure Bool := do
  let session ← rule.declarations.foldlM Session.declare (Session.start frame registry)
  let mask ← (session.evaluateCondition rule.condition).1.mapError
    (.expression "2nd_scan.condition")
  return mask.lastIsTrue

/-- Tries all formulas of a strategy without any data. -/
def validateExpressions (rules : Rules) (registry : Registry) : Except Failure Unit := do
  if let some condition := rules.latest then
    discard <| screenSnapshot (Frame.snapshot []) condition
  if let some rule := rules.history then
    discard <| matchesLatestBar Frame.empty registry rule

end Screener
