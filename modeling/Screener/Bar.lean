import Screener.Calendar.Timestamp
import Screener.Quantity

/-!
# Bars

A bar is what an instrument did in one span of time: its first, highest, lowest and last price,
the volume traded and the amount that was paid for it.
-/

namespace Screener

/-- The trade of one span of time. -/
structure Bar (α : Type) where
  timestamp : Timestamp
  opening : α
  high : α
  low : α
  close : α
  volume : α
  /-- The traded value, in the currency in which the instrument is quoted. -/
  amount : α
  deriving Repr, Inhabited

namespace Bar

variable {α : Type} [Quantity α]

/-- The widest of the distances between the highest price, the lowest price and the previous
close. -/
def trueRange (bar : Bar α) (previousClose : α) : α :=
  Quantity.larger
    (Quantity.larger (bar.high - bar.low) (Quantity.abs (bar.high - previousClose)))
    (Quantity.abs (bar.low - previousClose))

end Bar

end Screener
