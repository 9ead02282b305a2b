import Screener.Timeframe

/-!
# Strategies

A strategy names two conditions.  The first is tested on the latest bar of every ticker, the second
on the history of the tickers that have passed the first; either may be absent.
-/

namespace Screener

/-- A name for a formula, for use in later formulas. -/
structure Declaration where
  name : String
  expression : String
  deriving Repr, DecidableEq

/-- The condition on the history of a ticker, after declarations that are made in order. -/
structure HistoryRule where
  timeframe : Timeframe := .standard
  declarations : List Declaration := []
  condition : String
  deriving Repr, DecidableEq

/-- The conditions of a strategy. -/
structure Rules where
  /-- The condition on the latest bar. -/
  latest : Option String := none
  history : Option HistoryRule := none
  deriving Repr, DecidableEq

/-- A strategy; watchlists are kept under its number. -/
structure Strategy where
  id : Int
  name : String := ""
  description : String := ""
  market : String := ""
  rules : Rules
  deriving Repr, DecidableEq

end Screener
