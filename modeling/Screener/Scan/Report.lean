import Screener.Bar

/-!
# Reports

What the second scan says about each ticker of a watchlist: it qualifies with its latest bar, it is
rejected, it is skipped because it has no bars, or it fails for a reason.
-/

namespace Screener

/-- What becomes of a ticker in the second scan. -/
inductive Outcome where
  | qualified (bar : Bar Float)
  | rejected
  | skipped
  | failed (reason : String)
  deriving Repr

namespace Outcome

/-- The bar of a ticker that qualifies. -/
def bar? : Outcome → Option (Bar Float)
  | qualified bar => some bar
  | _ => none

/-- The reason of a ticker that fails. -/
def reason? : Outcome → Option String
  | failed reason => some reason
  | _ => none

/-- Whether a ticker is skipped. -/
def isSkipped : Outcome → Bool
  | skipped => true
  | _ => false

end Outcome

/-- The outcomes of a scan by their kind, each in the order of the watchlist. -/
structure Report where
  results : List (String × Bar Float) := []
  skipped : List String := []
  failures : List (String × String) := []
  /-- The version of the stored watchlist that was scanned, if it was a stored one. -/
  version : Option Nat := none
  deriving Repr

namespace Report

/-- Sorts outcomes by their kind. -/
def ofOutcomes (outcomes : List (String × Outcome)) : Report where
  results := outcomes.filterMap fun (ticker, outcome) => outcome.bar?.map (ticker, ·)
  skipped := outcomes.filterMap fun (ticker, outcome) =>
    if outcome.isSkipped then some ticker else none
  failures := outcomes.filterMap fun (ticker, outcome) => outcome.reason?.map (ticker, ·)

/-- The tickers that qualify. -/
def qualified (report : Report) : List String := report.results.map Prod.fst

end Report

end Screener
