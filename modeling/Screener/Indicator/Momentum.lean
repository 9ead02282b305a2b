import Screener.Indicator.Rows

/-!
# Momentum

How far and how steadily prices move: the relative strength of gains against losses, and the rate
of change over a number of rows, both in per cent.
-/

namespace Screener.Indicator

variable {α : Type} [Quantity α]

/-- The changes from each value to the next. -/
def changes (values : List α) : List α := (values.zip (values.drop 1)).map fun (a, b) => b - a

/-- The share of the gains in gains and losses, 100 if there are no losses. -/
def strength (gain loss : α) : α :=
  let hundred : α := Quantity.ofNat 100
  if Quantity.same loss (Quantity.ofNat 0) then hundred
  else hundred - hundred / (Quantity.ofNat 1 + gain / loss)

/-- The relative strength index over `period` changes. -/
def relativeStrength (period : Nat) (values : List α) : List (Option α) :=
  if period = 0 then absent values
  else match values with
    | [] => []
    | values@(_ :: _) =>
      let zero : α := Quantity.ofNat 0
      let gains := wilder period ((changes values).map fun c => Quantity.larger c zero)
      let losses := wilder period ((changes values).map fun c => Quantity.larger (-c) zero)
      none :: (gains.zip losses).map fun
        | (some gain, some loss) => some (strength gain loss)
        | _ => none

/-- The change against the value `period` rows earlier, 0 if that value is 0. -/
def rateOfChange (period : Nat) (values : List α) : List (Option α) :=
  (values.zip (delayed period values)).map fun
    | (_, none) => none
    | (value, some earlier) =>
      if Quantity.same earlier (Quantity.ofNat 0) then some (Quantity.ofNat 0)
      else some ((value - earlier) / earlier * Quantity.ofNat 100)

end Screener.Indicator
