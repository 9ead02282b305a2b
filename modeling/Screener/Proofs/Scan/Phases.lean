import Screener.Proofs.Formula.Registries
import Screener.Proofs.Scan.LookAhead
import Screener.Proofs.Scan.Snapshot

/-!
# One condition in both phases

A condition that can be tested on a snapshot calls no indicators and refers to no definitions, so
it looks at each row on its own.  Tested on the history of a ticker it says of the last row what
it says of the ticker's row in a snapshot, whatever the earlier bars are and however many, and
whatever indicators there are.
-/

namespace Screener

/-- The rule without declarations. -/
def HistoryRule.ofCondition (timeframe : Timeframe) (condition : String) : HistoryRule :=
  { timeframe, condition }

/-- A mask on a snapshot is the mask on a history with the same bars. -/
theorem HistoryRule.mask_of_snapshotMask {frame : Frame} {condition : String} {mask : Series}
    (hmask : snapshotMask frame condition = .ok mask) (registry : Registry)
    (timeframe : Timeframe) :
    (ofCondition timeframe condition).mask frame registry = .ok mask := by
  have hevaluate := Session.evaluateCondition_of_empty registry (mapError_eq_ok hmask)
  show (((Session.start frame registry).evaluateCondition condition).1.mapError _) = _
  rw [hevaluate]
  rfl

theorem screenSnapshot_single (ticker : String) (bar : Bar Float) (condition : String) :
    screenSnapshot (Frame.snapshot [(ticker, bar)]) condition =
      (snapshotMask (Frame.snapshot [(ticker, bar)]) condition).map fun mask =>
        if mask.isTrueAt 0 then [ticker] else [] := by
  rw [screenSnapshot_eq_map]
  congr 1
  funext mask
  cases h : mask.isTrueAt 0 <;> simp [Frame.snapshot, h]

/-- **The phases agree.**  If a condition can be tested on the last bar of a ticker as a snapshot,
the test of the ticker's history with the same condition answers whether the ticker has passed. -/
theorem matchesLatestBar_eq_screenSnapshot {bars : List (Bar Float)} {bar : Bar Float}
    (hlast : bars.getLast? = some bar) {ticker condition : String} {tickers : List String}
    (hscreen : screenSnapshot (Frame.snapshot [(ticker, bar)]) condition = .ok tickers)
    (registry : Registry) (timeframe : Timeframe) :
    matchesLatestBar (Frame.ofBars bars) registry (.ofCondition timeframe condition) =
      .ok (decide (tickers = [ticker])) := by
  have hpos : bars.length ≠ 0 := by
    intro hzero
    rw [List.length_eq_zero_iff.mp hzero] at hlast
    cases hlast
  have hbars : (Frame.snapshot [(ticker, bar)]).bars =
      (RowSelection.single (bars.length - 1)).pick (Frame.ofBars bars).bars := by
    show [bar] = bars[bars.length - 1]?.toList
    rw [← List.getLast?_eq_getElem?, hlast]
    rfl
  rw [screenSnapshot_single] at hscreen
  obtain ⟨row, hrow, rfl⟩ := map_eq_ok hscreen
  have hmasks := snapshotMask_selectedRows _ hbars condition
  rw [hrow] at hmasks
  -- the mask of the snapshot is the last row of the mask of the history
  generalize hmask : snapshotMask (Frame.ofBars bars) condition = result at hmasks
  cases hmasks with
  | @ok mask _ hselected =>
      have hlength : mask.length = bars.length := hselected.length
      have htruth : row.isTrueAt 0 = mask.isTrueAt (bars.length - 1) := by
        rw [hselected.select, Series.isTrueAt_select_single]
      rw [matchesLatestBar_eq_map, HistoryRule.mask_of_snapshotMask hmask]
      refine congrArg Except.ok ?_
      rw [Series.lastIsTrue, hlength, ← htruth, bne_iff_ne.mpr hpos, Bool.true_and]
      cases row.isTrueAt 0 <;> simp

theorem matchesLatestBar_eq_screenSnapshot_rising :
    let bar : Bar Float := ⟨⟨86400, false⟩, 11, 14, 11, 13, 800, 9600⟩
    let rule := HistoryRule.ofCondition .standard "close > open"
    risingDays.bars.getLast? = some bar ∧
      screenSnapshot (Frame.snapshot [("UP", bar)]) "close > open" = .ok ["UP"] ∧
      matchesLatestBar (Frame.ofBars risingDays.bars) .standard rule = .ok true := by
  intro bar rule
  have hlast : risingDays.bars.getLast? = some bar := rfl
  have hscreen : screenSnapshot (Frame.snapshot [("UP", bar)]) "close > open" = .ok ["UP"] := by
    decide +kernel
  exact ⟨hlast, hscreen, matchesLatestBar_eq_screenSnapshot hlast hscreen .standard .standard⟩

end Screener
