import Screener.Bar
import Screener.Indicator.Rows

/-!
# Volume

On-balance volume counts the volume of rising bars up and that of falling bars down.
-/

namespace Screener.Indicator

variable {α : Type} [Quantity α]

/-- The volume so far, each bar counted up, down or not at all as it closes above, below or at the
close before it. -/
def onBalanceVolume (bars : List (Bar α)) : List (Option α) :=
  scan (fun (state : Option (α × α)) bar =>
    let level := match state with
      | none => bar.volume
      | some (level, close) =>
        if Quantity.less close bar.close then level + bar.volume
        else if Quantity.less bar.close close then level - bar.volume
        else level
    (some (level, bar.close), some level)) none bars

end Screener.Indicator
