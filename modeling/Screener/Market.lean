import Screener.Failure
import Screener.Frame
import Screener.Timeframe

/-!
# Markets

A market is where bars come from.  It may fail for one ticker and answer for another; whoever asks
for several tickers at once takes what there is.
-/

namespace Screener

/-- A source of bars. -/
structure Market (m : Type → Type) where
  /-- The latest bars of a ticker, at most as many as asked for, oldest first.  A ticker that the
  market does not know has no bars. -/
  history : String → Timeframe → Nat → m (Attempt (List (Bar Float)))
  /-- The tickers that have bars of a timeframe. -/
  listing : Timeframe → m (Attempt (List String))

namespace Market

variable {m : Type → Type} [Monad m]

/-- The same market for a larger computation. -/
def lift {σ : Type} (market : Market m) : Market (StateT σ m) where
  history ticker timeframe limit := StateT.lift (market.history ticker timeframe limit)
  listing timeframe := StateT.lift (market.listing timeframe)

/-- How many bars are asked for when only the latest one is wanted. -/
def snapshotLimit : Nat := 2

/-- A ticker with the last of its bars; none if there are no bars or the market does not answer. -/
def latestRow (ticker : String) : Attempt (List (Bar Float)) → Option (String × Bar Float)
  | .ok bars => bars.getLast?.map fun bar => (ticker, bar)
  | .error _ => none

/-- The latest bar of every ticker that has one, in the given order. -/
def snapshot (market : Market m) (tickers : List String) (timeframe : Timeframe) : m Frame := do
  let rows ← tickers.mapM fun ticker =>
    return latestRow ticker (← market.history ticker timeframe snapshotLimit)
  return Frame.snapshot (rows.filterMap id)

/-- The tickers to scan: those that were asked for, or else all that the market lists. -/
def resolve (market : Market m) (configured : Option (List String)) (timeframe : Timeframe) :
    m (Attempt (List String)) := do
  let tickers ← match configured with
    | some tickers => pure (.ok tickers)
    | none => market.listing timeframe
  return tickers.bind fun tickers =>
    if tickers.isEmpty then fail .emptyUniverse else .ok tickers

end Market

end Screener
