import Screener.Indicator.Rows

/-!
# Moving averages

The mean of the last `period` values, the mean that gives the newest of them the most weight, and
the mean that never forgets.  The first two slide a window: a value enters, the oldest one leaves.
-/

namespace Screener.Indicator

variable {α : Type} [Quantity α]

/-- The mean of the last `period` values, from a sum that follows the window. -/
def movingAverage (period : Nat) (values : List α) : List (Option α) :=
  if period = 0 then absent values
  else
    scan (fun (row, sum) (entering, leaving) =>
      let sum := sum + entering
      let sum := match leaving with
        | some oldest => sum - oldest
        | none => sum
      ((row + 1, sum), if period ≤ row + 1 then some (sum / Quantity.ofNat period) else none))
      (0, Quantity.ofNat 0) (values.zip (delayed period values))

/-- The mean of the last `period` values with the weights 1 to `period`, the newest value having
the greatest. -/
def weightedAverage (period : Nat) (values : List α) : List (Option α) :=
  if period = 0 then absent values
  else
    let count : α := Quantity.ofNat period
    let weights := count * (count + Quantity.ofNat 1) / Quantity.ofNat 2
    scan (fun (row, weighted, sum) (entering, leaving) =>
      let (weighted, sum) := match leaving with
        | none => (weighted + Quantity.ofNat (row + 1) * entering, sum + entering)
        | some oldest => (weighted + (count * entering - sum), sum + (entering - oldest))
      ((row + 1, weighted, sum), if period ≤ row + 1 then some (weighted / weights) else none))
      (0, Quantity.ofNat 0, Quantity.ofNat 0) (values.zip (delayed period values))

/-- The mean that starts as the plain mean of `period` values and then moves a fixed share of the
way towards each new value. -/
def exponentialAverage (period : Nat) (values : List α) : List (Option α) :=
  if period = 0 then absent values
  else
    let share : α := Quantity.ofNat 2 / (Quantity.ofNat period + Quantity.ofNat 1)
    smoothed period (Quantity.ofNat 0)
      (fun level value => value * share + level * (Quantity.ofNat 1 - share)) values

end Screener.Indicator
