import Screener.Proofs.Indicator.Causal
import Screener.Proofs.Indicator.Loops

/-!
# Warm-up

An indicator has no value in its first rows, and it has one in every row after them.  How many
these first rows are is exact for each calculation: a window of `period` rows is full in row
`period - 1`, and so is the first mean of `period` values; changes begin one row later than values,
and so do their means; and a rate of change needs the value `period` rows earlier.
-/

namespace Screener.Indicator

/-- The values of the first `gap` rows are missing and no others. -/
def MissingUntil {α β : Type} (gap : Nat) (calculate : List α → List (Option β)) : Prop :=
  ∀ values row, row < values.length → ((calculate values)[row]? = some none ↔ row < gap)

namespace MissingUntil

variable {σ α β γ : Type} {gap : Nat}

/-- A calculation on values that are calculated row by row. -/
theorem comp {g : List β → List (Option γ)} {f : List α → List β} (hg : MissingUntil gap g)
    (hlength : ∀ values, (f values).length = values.length) :
    MissingUntil gap fun values => g (f values) := by
  intro values row hrow
  apply hg
  rw [hlength]
  exact hrow

/-- A loop that counts its rows. -/
theorem scan {step : Nat × σ → α → (Nat × σ) × Option β} (state : σ)
    (hcount : ∀ state value, (step state value).1.1 = state.1 + 1)
    (hmissing : ∀ state value, (step state value).2 = none ↔ state.1 < gap) :
    MissingUntil gap (Indicator.scan step (0, state)) := by
  intro values row hrow
  have hstart : ((0, state) : Nat × σ).1 = 0 := rfl
  obtain ⟨before, hbefore, hgives⟩ := exists_getElem?_scan step (fun row before => before.1 = row)
    hstart (fun _ _ _ _ hbefore => by rw [hcount, hbefore]) (List.getElem?_eq_getElem hrow)
  rw [hgives, Option.some_inj, hmissing, hbefore]

end MissingUntil

variable {α : Type} [Quantity α] {period : Nat}

/-! ## Windows and means -/

theorem missingUntil_smoothed (hperiod : 1 ≤ period) (start : α) (update : α → α → α) :
    MissingUntil (period - 1) (smoothed period start update) := by
  rw [funext (smoothed_eq start update)]
  refine .scan _ (fun _ _ => rfl) (fun state value => ?_)
  unfold smoothingStep
  split
  · exact ⟨fun _ => by omega, fun _ => rfl⟩
  · exact ⟨nofun, fun h => by omega⟩

theorem missingUntil_wilder (hperiod : 1 ≤ period) :
    MissingUntil (period - 1) (wilder period : List α → List (Option α)) :=
  missingUntil_smoothed hperiod _ _

theorem missingUntil_exponentialAverage (hperiod : 1 ≤ period) :
    MissingUntil (period - 1) (exponentialAverage period : List α → List (Option α)) := by
  intro values
  rw [exponentialAverage, if_neg (by omega)]
  exact missingUntil_smoothed hperiod _ _ values

theorem missingUntil_averageTrueRange (hperiod : 1 ≤ period) :
    MissingUntil (period - 1) (averageTrueRange period : List (Bar α) → List (Option α)) := by
  intro bars
  rw [averageTrueRange, if_neg (by omega)]
  exact (missingUntil_wilder hperiod).comp causal_trueRanges.length bars

omit [Quantity α] in
/-- A window is full from row `period - 1` on. -/
private theorem missing_iff_of_ite {row : Nat} {value : α} (hperiod : 1 ≤ period) :
    (if period ≤ row + 1 then some value else none) = none ↔ row < period - 1 := by
  split
  · exact ⟨nofun, fun h => by omega⟩
  · exact ⟨fun _ => by omega, fun _ => rfl⟩

theorem missingUntil_movingAverage (hperiod : 1 ≤ period) :
    MissingUntil (period - 1) (movingAverage period : List α → List (Option α)) := by
  rw [funext (movingAverage_eq (by omega))]
  exact (MissingUntil.scan _ (fun _ _ => rfl) (fun _ _ => missing_iff_of_ite hperiod)).comp
    (Causal.zip_delayed period).length

theorem missingUntil_weightedAverage (hperiod : 1 ≤ period) :
    MissingUntil (period - 1) (weightedAverage period : List α → List (Option α)) := by
  rw [funext (weightedAverage_eq (by omega))]
  exact (MissingUntil.scan _ (fun _ _ => rfl) (fun _ _ => missing_iff_of_ite hperiod)).comp
    (Causal.zip_delayed period).length

omit [Quantity α] in
theorem missingUntil_windows {β : Type} (hperiod : 1 ≤ period) (f : List α → β) :
    MissingUntil (period - 1) fun values => (windows period values).map (·.map f) := by
  intro values row hrow
  rw [List.getElem?_map, getElem?_windows hrow]
  simp only [Option.map_some, Option.some_inj, Option.map_eq_none_iff, window]
  split <;> simp <;> omega

theorem missingUntil_standardDeviation (hperiod : 1 ≤ period) :
    MissingUntil (period - 1) (standardDeviation period : List α → List (Option α)) :=
  missingUntil_windows hperiod _

theorem missingUntil_bollinger (hperiod : 1 ≤ period) (width : α) (side : Band) :
    MissingUntil (period - 1) (bollinger period width side : List α → List (Option α)) :=
  missingUntil_windows hperiod _

/-! ## Changes -/

theorem missingUntil_rateOfChange :
    MissingUntil period (rateOfChange period : List α → List (Option α)) := by
  intro values row hrow
  rw [rateOfChange, List.getElem?_map, getElem?_zip_delayed (List.getElem?_eq_getElem hrow)]
  by_cases hperiod : row < period
  · simp [hperiod]
  · rw [if_neg hperiod, List.getElem?_eq_getElem (by omega)]
    simp only [Option.map_some, Option.some_inj]
    constructor
    · split <;> exact nofun
    · exact fun h => absurd h hperiod

theorem missingUntil_relativeStrength (hperiod : 1 ≤ period) :
    MissingUntil period (relativeStrength period : List α → List (Option α)) := by
  intro values row hrow
  have hpositive : period ≠ 0 := by omega
  cases row with
  | zero =>
      cases values with
      | nil => exact absurd hrow (Nat.not_lt_zero _)
      | cons first rest =>
          rw [relativeStrength_cons hpositive]
          exact ⟨fun _ => hperiod, fun _ => rfl⟩
  | succ row =>
      obtain ⟨gain, loss, hgain, hloss, hgives⟩ := getElem?_relativeStrength_succ hpositive hrow
      have hgain_missing := missingUntil_wilder hperiod (gains values) row (by simp; omega)
      have hloss_missing := missingUntil_wilder hperiod (losses values) row (by simp; omega)
      rw [hgain, Option.some_inj] at hgain_missing
      rw [hloss, Option.some_inj] at hloss_missing
      rw [hgives, Option.some_inj]
      -- both means are missing for the same rows of changes, which begin one row later
      by_cases hearly : row < period - 1
      · rw [hgain_missing.mpr hearly]
        exact ⟨fun _ => by omega, fun _ => rfl⟩
      · obtain ⟨gain, rfl⟩ := Option.ne_none_iff_exists'.mp (hearly ∘ hgain_missing.mp)
        obtain ⟨loss, rfl⟩ := Option.ne_none_iff_exists'.mp (hearly ∘ hloss_missing.mp)
        exact ⟨nofun, fun h => absurd h (by omega)⟩

theorem missingUntil_onBalanceVolume :
    MissingUntil 0 (onBalanceVolume : List (Bar α) → List (Option α)) := by
  intro bars row hrow
  obtain ⟨before, -, hgives⟩ := exists_getElem?_scan _ (fun _ _ => True) trivial
    (fun _ _ _ _ _ => trivial) (List.getElem?_eq_getElem hrow)
  rw [onBalanceVolume, hgives]
  exact ⟨nofun, nofun⟩

end Screener.Indicator
