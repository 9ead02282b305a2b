import Screener.Bar
import Screener.Indicator.Rows

/-!
# Spread

How far values scatter: the standard deviation of a window, the bands at a distance from its mean,
and the smoothed range of the bars.
-/

namespace Screener.Indicator

variable {α : Type} [Quantity α]

/-- The mean of a list. -/
def mean (values : List α) : α := Quantity.sum values / Quantity.ofNat values.length

/-- The standard deviation of a whole population. -/
def deviation (values : List α) : α :=
  let center := mean values
  Quantity.sqrt (mean (values.map fun value => (value - center) * (value - center)))

/-- The standard deviation of the last `period` values. -/
def standardDeviation (period : Nat) (values : List α) : List (Option α) :=
  (windows period values).map (·.map deviation)

/-- The two lines at a distance from the mean. -/
inductive Band where
  | upper
  | lower
  deriving Repr, DecidableEq

/-- The mean of the last `period` values, moved up or down by `width` standard deviations. -/
def bollinger (period : Nat) (width : α) (band : Band) (values : List α) : List (Option α) :=
  (windows period values).map (·.map fun values =>
    let middle := Quantity.sum values / Quantity.ofNat period
    let distance := width * deviation values
    match band with
    | .upper => middle + distance
    | .lower => middle - distance)

/-- The range of each bar, seen from the close of the bar before it. -/
def trueRanges : List (Bar α) → List α
  | [] => []
  | first :: rest =>
    (first.high - first.low) ::
      ((first :: rest).zip rest).map fun (previous, bar) => bar.trueRange previous.close

/-- The smoothed true range. -/
def averageTrueRange (period : Nat) (bars : List (Bar α)) : List (Option α) :=
  if period = 0 then absent bars else wilder period (trueRanges bars)

end Screener.Indicator
