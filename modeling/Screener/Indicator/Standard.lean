import Screener.Indicator.Average
import Screener.Indicator.Momentum
import Screener.Indicator.Registry
import Screener.Indicator.Spread
import Screener.Indicator.Volume

/-!
# The standard indicators

The eleven indicators that formulas may call in the second scan.
-/

namespace Screener

namespace Indicator

/-- An indicator of one column with a number of rows as its only argument. -/
def ofPeriod (column : Frame → List Float)
    (calculate : Nat → List Float → List (Option Float)) : Indicator
  | frame, [value] => do
    let rows ← period 0 value
    return calculate rows (column frame)
  | _, arguments => .error (.arity 1 arguments.length)

/-- The smoothed true range as an indicator. -/
def atr : Indicator
  | frame, [value] => do
    let rows ← period 0 value
    return averageTrueRange rows frame.bars
  | _, arguments => .error (.arity 1 arguments.length)

/-- On-balance volume as an indicator without arguments. -/
def obv : Indicator
  | frame, [] => return onBalanceVolume frame.bars
  | _, arguments => .error (.arity 0 arguments.length)

/-- A band as an indicator: a number of rows, and a number of standard deviations. -/
def band (side : Band) : Indicator
  | frame, [value, width] => do
    let rows ← period 0 value
    let width ← multiplier 1 width
    return bollinger rows width side frame.closes
  | _, arguments => .error (.arity 2 arguments.length)

end Indicator

/-- The eleven standard indicators under their names. -/
def Registry.standard : Registry :=
  ⟨[("ma", .ofPeriod Frame.closes Indicator.movingAverage),
    ("ema", .ofPeriod Frame.closes Indicator.exponentialAverage),
    ("wma", .ofPeriod Frame.closes Indicator.weightedAverage),
    ("rsi", .ofPeriod Frame.closes Indicator.relativeStrength),
    ("roc", .ofPeriod Frame.closes Indicator.rateOfChange),
    ("stddev", .ofPeriod Frame.closes Indicator.standardDeviation),
    ("atr", Indicator.atr),
    ("obv", Indicator.obv),
    ("vol_ma", .ofPeriod Frame.volumes Indicator.movingAverage),
    ("bb_upper", Indicator.band .upper),
    ("bb_lower", Indicator.band .lower)]⟩

end Screener
