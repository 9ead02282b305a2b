import Screener.Proofs.Formula.RowSelection
import Screener.Proofs.Indicator.Standard

/-!
# The first rows of a series

The first rows are selected rows, and lags that do not look ahead and regular indicators respect this
selection.  Hence the first rows of a formula are what the formula gives on the first rows of its
frame (`FirstRows.related`).
-/

namespace Screener

namespace Series

/-- The first `n` rows. -/
def take (series : Series) (n : Nat) : Series :=
  match series with
  | numbers rows => numbers (rows.take n)
  | truths rows => truths (rows.take n)

theorem take_eq_select (series : Series) (n : Nat) : series.take n = series.select (.first n) := by
  cases series <;> rfl

theorem length_take (series : Series) (n : Nat) :
    (series.take n).length = min n series.length := by
  cases series <;> exact List.length_take

theorem shiftRows_take {α : Type} (rows : List (Option α)) {periods : Int}
    (hperiods : 0 ≤ periods) (n : Nat) :
    shiftRows (rows.take n) periods = (shiftRows rows periods).take n := by
  unfold shiftRows
  rw [if_pos hperiods, if_pos hperiods, List.length_take, List.take_append, List.take_replicate,
    List.length_replicate, List.take_take, List.take_take]
  -- both sides are a gap and then a front part of the rows, of the same lengths
  congr 2 <;> omega

/-- A lag that does not look ahead moves entries to later rows only. -/
theorem shift_take (series : Series) {periods : Int} (hperiods : 0 ≤ periods) (n : Nat) :
    (series.take n).shift periods = (series.shift periods).take n := by
  cases series with
  | numbers rows => exact congrArg numbers (shiftRows_take rows hperiods n)
  | truths rows => exact congrArg truths (shiftRows_take rows hperiods n)

end Series

/-- A series with one entry for each row of its frame, and the first `n` of its rows. -/
structure FirstRows (frame : Frame) (n : Nat) (s s' : Series) : Prop where
  length : s.length = frame.size
  take : s' = s.take n

namespace FirstRows

theorem shift {frame : Frame} {n : Nat} {s s' : Series} (hfirst : FirstRows frame n s s')
    {periods : Int} (hperiods : 0 ≤ periods) :
    FirstRows frame n (s.shift periods) (s'.shift periods) where
  length := by rw [Series.length_shift, hfirst.length]
  take := by rw [hfirst.take, Series.shift_take s hperiods]

/-- First rows are rows of a selection. -/
theorem eq_selectedRows (frame : Frame) (n : Nat) :
    FirstRows frame n = SelectedRows (.first n) frame := by
  funext s s'
  refine propext ⟨fun hfirst => ?_, fun hselected => ?_⟩
  · exact ⟨hfirst.length, hfirst.take.trans (s.take_eq_select n)⟩
  · exact ⟨hselected.length, hselected.select.trans (s.take_eq_select n).symm⟩

theorem related {registry : Registry} (hregular : registry.Regular) (frame : Frame) (n : Nat) :
    Related (FirstRows frame n) ⟨frame, registry⟩ ⟨frame.take n, registry⟩ := by
  rw [eq_selectedRows]
  refine SelectedRows.related rfl fun c => ?_
  rw [Environment.compute, Environment.compute]
  cases hget : registry.get? c.name with
  | none => exact .error _
  | some indicator =>
      have hindicator := hregular c.name indicator hget
      simp only [hindicator.take]
      rcases hindicator.uniform c.arguments with ⟨e, hfails⟩ | hgives
      · rw [hfails]
        exact .error _
      · obtain ⟨rows, hrows, hlength⟩ := hgives frame
        rw [hrows]
        exact .ok ⟨hlength, rfl⟩

end FirstRows

end Screener
