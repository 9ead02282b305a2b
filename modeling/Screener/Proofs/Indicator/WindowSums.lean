import Mathlib.Algebra.BigOperators.Fin
import Mathlib.Algebra.BigOperators.Intervals
import Mathlib.Data.List.GetD
import Mathlib.Tactic.Ring
import Screener.Proofs.Indicator.Causal
import Screener.Proofs.Indicator.Exact
import Screener.Proofs.Indicator.Loops

/-!
# Sliding sums

The moving averages keep the sum of their window, and the weighted one its weighted sum too, by
what enters and what leaves.  Over exact quantities these are the sums themselves, so the averages
are what their formulas say.

## Strategy

The invariant of both loops speaks of the rows from `row - period` to `row`: while the window fills
this interval begins with the first row, afterwards it has `period` rows.  A step adds a row at its
end (`Finset.sum_Ico_succ_top`) and, once it is full, takes the first one away
(`Finset.sum_eq_sum_Ico_succ_bot`).  For the weighted sum the second is a change of every weight:
each falls by one, which takes the plain sum away, and the row that leaves then has weight 0.
-/

namespace Screener.Indicator

variable {K : Type} [Field K] {period row : Nat} {values : List K}

/-! ## Sums of a window -/

/-- The sum of the last `period` values before a row, or of all of them if there are fewer. -/
def windowSum (period : Nat) (values : List K) (row : Nat) : K :=
  ∑ k ∈ Finset.Ico (row - period) row, values.getD k 0

/-- The sum of the same values with the weights 1, 2 and so on, from the oldest to the newest. -/
def weightedSum (period : Nat) (values : List K) (row : Nat) : K :=
  ∑ k ∈ Finset.Ico (row - period) row, ((k + 1 - (row - period) : Nat) : K) * values.getD k 0

@[simp] theorem windowSum_zero : windowSum period values 0 = 0 := by
  simp [windowSum]

@[simp] theorem weightedSum_zero : weightedSum period values 0 = 0 := by
  simp [weightedSum]

/-- A window is a part of the list. -/
theorem sum_take_drop {first count : Nat} (hcount : first + count ≤ values.length) :
    ((values.drop first).take count).sum =
      ∑ k ∈ Finset.Ico first (first + count), values.getD k 0 := by
  induction count with
  | zero => simp
  | succ count ih =>
      have hnext : first + count < values.length := by omega
      rw [List.take_add_one, List.sum_append, ih (by omega), List.getElem?_drop,
        List.getElem?_eq_getElem hnext, ← Nat.add_assoc, Finset.sum_Ico_succ_top (by omega),
        List.getD_eq_getElem _ _ hnext]
      simp

theorem windowSum_eq_sum (hfull : period ≤ row) (hrow : row ≤ values.length) :
    windowSum period values row =
      ∑ j : Fin period, values.get ⟨row - period + j, by omega⟩ := by
  rw [windowSum, Finset.sum_Ico_eq_sum_range, Nat.sub_sub_self hfull, Finset.sum_range]
  refine Finset.sum_congr rfl fun j _ => ?_
  rw [List.getD_eq_getElem _ _ (by omega), List.get_eq_getElem]

theorem weightedSum_eq_sum (hfull : period ≤ row) (hrow : row ≤ values.length) :
    weightedSum period values row =
      ∑ j : Fin period, (j + 1 : K) * values.get ⟨row - period + j, by omega⟩ := by
  rw [weightedSum, Finset.sum_Ico_eq_sum_range, Nat.sub_sub_self hfull, Finset.sum_range]
  refine Finset.sum_congr rfl fun j _ => ?_
  have hweight : row - period + j + 1 - (row - period) = j + 1 := by omega
  rw [List.getD_eq_getElem _ _ (by omega), List.get_eq_getElem, hweight, Nat.cast_succ]

/-- In a window that moves on by one row every weight falls by one. -/
theorem weightedSum_succ (hfull : period ≤ row) :
    weightedSum period values (row + 1) =
      weightedSum period values row - windowSum period values row +
        (period : K) * values.getD row 0 := by
  have hfirst : row + 1 - period = row - period + 1 := by omega
  -- the row that leaves would have the weight 0
  have hbottom := Finset.sum_eq_sum_Ico_succ_bot (show row - period < row + 1 by omega)
    fun k => ((k - (row - period) : Nat) : K) * values.getD k 0
  rw [Nat.sub_self, Nat.cast_zero, zero_mul, zero_add, Finset.sum_Ico_succ_top (by omega),
    Nat.sub_sub_self hfull] at hbottom
  unfold weightedSum windowSum
  rw [hfirst, ← Finset.sum_sub_distrib]
  simp only [Nat.add_sub_add_right]
  rw [← hbottom, add_left_inj]
  refine Finset.sum_congr rfl fun k hk => ?_
  have hweight : k + 1 - (row - period) = k - (row - period) + 1 := by
    have := (Finset.mem_Ico.mp hk).1
    omega
  rw [hweight]
  push_cast
  ring

variable [LinearOrder K] [Rooted K]

/-! ## One row -/

theorem slide_windowSum (hperiod : 1 ≤ period) {item : K × Option K}
    (hitem : (values.zip (delayed period values))[row]? = some item) :
    slide (windowSum period values row) item = windowSum period values (row + 1) := by
  obtain ⟨value, hvalue, rfl⟩ := exists_of_getElem?_zip_delayed hitem
  have hentering : values.getD row 0 = value := by simp [hvalue]
  unfold windowSum slide
  by_cases hfilling : row < period
  · rw [if_pos hfilling, Nat.sub_eq_zero_of_le hfilling.le, Nat.sub_eq_zero_of_le hfilling,
      Finset.sum_Ico_succ_top (Nat.zero_le row), hentering]
  · have hlength : row - period < values.length := by
      have := (List.getElem?_eq_some_iff.mp hvalue).1
      omega
    have hfirst : row + 1 - period = row - period + 1 := by omega
    rw [if_neg hfilling, List.getElem?_eq_getElem hlength, hfirst]
    have hleaving : values.getD (row - period) 0 = values[row - period] := by simp [hlength]
    have hbottom := Finset.sum_eq_sum_Ico_succ_bot (show row - period < row + 1 by omega)
      fun k => values.getD k 0
    rw [Finset.sum_Ico_succ_top (by omega), hentering, hleaving] at hbottom
    exact sub_eq_of_eq_add' hbottom

theorem weigh_sums (hperiod : 1 ≤ period) {item : K × Option K}
    (hitem : (values.zip (delayed period values))[row]? = some item) :
    weigh period row (weightedSum period values row, windowSum period values row) item =
      (weightedSum period values (row + 1), windowSum period values (row + 1)) := by
  have hslide := slide_windowSum hperiod hitem
  obtain ⟨value, hvalue, rfl⟩ := exists_of_getElem?_zip_delayed hitem
  have hentering : values.getD row 0 = value := by simp [hvalue]
  unfold slide at hslide
  unfold weigh
  by_cases hfilling : row < period
  · simp only [if_pos hfilling] at hslide ⊢
    refine Prod.ext ?_ hslide
    unfold weightedSum
    rw [Nat.sub_eq_zero_of_le hfilling.le, Nat.sub_eq_zero_of_le hfilling,
      Finset.sum_Ico_succ_top (Nat.zero_le row), hentering, Nat.sub_zero]
    rfl
  · have hlength : row - period < values.length := by
      have := (List.getElem?_eq_some_iff.mp hvalue).1
      omega
    simp only [if_neg hfilling, List.getElem?_eq_getElem hlength] at hslide ⊢
    refine Prod.ext ?_ ?_
    · rw [weightedSum_succ (not_lt.mp hfilling), hentering]
      exact (add_sub_assoc' _ _ _).trans (sub_add_eq_add_sub _ _ _).symm
    · rw [← hslide]
      exact add_sub_assoc' _ _ _

/-! ## All rows -/

theorem getElem?_movingAverage (hperiod : 1 ≤ period) (hrow : row < values.length) :
    (movingAverage period values)[row]? =
      some (if period ≤ row + 1 then some (windowSum period values (row + 1) / period)
        else none) := by
  have hlength : row < (values.zip (delayed period values)).length := by simpa using hrow
  have hitem := List.getElem?_eq_getElem hlength
  have hstart : ((0 : Nat), (Quantity.ofNat 0 : K)) = (0, windowSum period values 0) := by simp
  obtain ⟨before, hbefore, hgives⟩ := exists_getElem?_scan (movingStep period)
    (fun row before => before = (row, windowSum period values row)) hstart
    (by
      rintro row _ item hitem rfl
      rw [movingStep, slide_windowSum hperiod hitem]) hitem
  rw [movingAverage_eq (by omega), hgives, hbefore, movingStep, slide_windowSum hperiod hitem]
  rfl

theorem getElem?_weightedAverage (hperiod : 1 ≤ period) (hrow : row < values.length) :
    (weightedAverage period values)[row]? =
      some (if period ≤ row + 1 then
          some (weightedSum period values (row + 1) / (period * (period + 1) / 2))
        else none) := by
  have hlength : row < (values.zip (delayed period values)).length := by simpa using hrow
  have hitem := List.getElem?_eq_getElem hlength
  have hstart : ((0 : Nat), (Quantity.ofNat 0 : K), (Quantity.ofNat 0 : K)) =
      (0, weightedSum period values 0, windowSum period values 0) := by simp
  obtain ⟨before, hbefore, hgives⟩ := exists_getElem?_scan (weightedStep period)
    (fun row before => before = (row, weightedSum period values row, windowSum period values row))
    hstart
    (by
      rintro row _ item hitem rfl
      rw [weightedStep, weigh_sums hperiod hitem]) hitem
  rw [weightedAverage_eq (by omega), hgives, hbefore, weightedStep, weigh_sums hperiod hitem]
  simp [totalWeight]

/-- Bands of width 0 are the line in the middle. -/
theorem getElem?_bollinger_zero (hperiod : 1 ≤ period) (side : Band) (hrow : row < values.length) :
    (bollinger period 0 side values)[row]? =
      some (if period ≤ row + 1 then some (windowSum period values (row + 1) / period)
        else none) := by
  rw [bollinger, List.getElem?_map, getElem?_windows hrow, window]
  by_cases hfull : period ≤ row + 1
  · have hsum : ((values.drop (row + 1 - period)).take period).sum =
        windowSum period values (row + 1) := by
      rw [sum_take_drop (by omega), Nat.sub_add_cancel hfull, windowSum]
    rw [if_neg (by omega), if_pos hfull]
    cases side <;> simp [hsum]
  · rw [if_pos (by omega), if_neg hfull]
    rfl

/-! ## The formulas -/

/-- In exact arithmetic the moving averages are what they are the averages of: the plain one is the
mean of the last `period` values, the weighted one their mean with the weights 1 to `period`, and
the line between the bands is the plain one, missing rows included. -/
theorem slidingAverages_exact (hperiod : 1 ≤ period) (values : List K) :
    (∀ row (hfull : period ≤ row + 1) (hrow : row < values.length),
      (movingAverage period values)[row]? =
        some (some ((∑ j : Fin period, values.get ⟨row + 1 - period + j, by omega⟩) / period)) ∧
      (weightedAverage period values)[row]? =
        some (some ((∑ j : Fin period,
          (j + 1 : K) * values.get ⟨row + 1 - period + j, by omega⟩) /
            (period * (period + 1) / 2)))) ∧
    ∀ side, bollinger period 0 side values = movingAverage period values := by
  refine ⟨fun row hfull hrow => ⟨?_, ?_⟩, fun side => List.ext_getElem? fun row => ?_⟩
  · rw [getElem?_movingAverage hperiod hrow, if_pos hfull, windowSum_eq_sum hfull hrow]
  · rw [getElem?_weightedAverage hperiod hrow, if_pos hfull, weightedSum_eq_sum hfull hrow]
  · by_cases hrow : row < values.length
    · rw [getElem?_bollinger_zero hperiod side hrow, getElem?_movingAverage hperiod hrow]
    · have hbands := (causal_bollinger period (0 : K) side).length values
      have hmeans := (causal_movingAverage period).length values
      rw [List.getElem?_eq_none (by omega), List.getElem?_eq_none (by omega)]

theorem slidingAverages_exact_steps :
    (movingAverage 3 ([10, 20, 30, 40, 50] : List ℚ))[4]? = some (some 40) ∧
      (weightedAverage 3 ([10, 20, 30, 40, 50] : List ℚ))[4]? = some (some (130 / 3)) ∧
      bollinger 3 0 .upper ([10, 20, 30, 40, 50] : List ℚ) =
        movingAverage 3 ([10, 20, 30, 40, 50] : List ℚ) := by
  obtain ⟨hrows, hbands⟩ := slidingAverages_exact (show 1 ≤ 3 by decide)
    ([10, 20, 30, 40, 50] : List ℚ)
  obtain ⟨hplain, hweighted⟩ := hrows 4 (by decide) (by decide)
  refine ⟨?_, ?_, hbands .upper⟩
  · rw [hplain]
    norm_num [Fin.sum_univ_three]
  · rw [hweighted]
    norm_num [Fin.sum_univ_three]

end Screener.Indicator
