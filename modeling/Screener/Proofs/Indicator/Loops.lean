import Screener.Indicator.Average
import Screener.Indicator.Momentum
import Screener.Indicator.Spread

/-!
# Loops over rows

What is carried from row to row by `scan`: whatever holds before the first row and is kept by each
row holds before every row (`exists_getElem?_scan`), and two loops in step give matching rows
(`scan_map`).  The loops that count their rows are named by what they do in one row: they add up a
window (`movingStep`), add it up with weights (`weightedStep`) or update a mean (`smoothingStep`).
-/

namespace Screener.Indicator

variable {σ α β : Type}

/-- The state before a row has what the first state has and every step keeps. -/
theorem exists_getElem?_scan (step : σ → α → σ × β) (P : Nat → σ → Prop) {values : List α}
    {state : σ} (hstart : P 0 state)
    (hstep : ∀ row state value, values[row]? = some value → P row state →
      P (row + 1) (step state value).1)
    {row : Nat} {value : α} (hvalue : values[row]? = some value) :
    ∃ before, P row before ∧ (scan step state values)[row]? = some (step before value).2 := by
  induction values generalizing P state row with
  | nil => cases hvalue
  | cons first rest ih =>
      cases row with
      | zero =>
          obtain rfl : first = value := Option.some.inj hvalue
          exact ⟨state, hstart, rfl⟩
      | succ row =>
          exact ih (fun row => P (row + 1)) (hstep 0 state first rfl hstart)
            (fun row state value hvalue hstate => hstep (row + 1) state value hvalue hstate) hvalue

/-- Two loops in step: the states correspond and so does what they give. -/
theorem scan_map {σ' α' β' : Type} {step : σ → α → σ × β} {step' : σ' → α' → σ' × β'}
    (ofState : σ → σ') (ofValue : α → α') (ofResult : β → β')
    (hstep : ∀ state value, step' (ofState state) (ofValue value) =
      (ofState (step state value).1, ofResult (step state value).2))
    (state : σ) (values : List α) :
    scan step' (ofState state) (values.map ofValue) =
      (scan step state values).map ofResult := by
  induction values generalizing state with
  | nil => rfl
  | cons value rest ih => simp only [List.map_cons, scan, hstep, ih]

/-- The window of a row among the windows of all rows. -/
theorem getElem?_windows {period : Nat} {values : List α} {row : Nat}
    (hrow : row < values.length) :
    (windows period values)[row]? = some (window period values row) := by
  rw [windows, List.getElem?_map, List.getElem?_range hrow]
  rfl

/-! ## What the loops do in one row -/

/-- A value beside the one `period` rows earlier. -/
theorem getElem?_zip_delayed {period : Nat} {values : List α} {row : Nat} {value : α}
    (hvalue : values[row]? = some value) :
    (values.zip (delayed period values))[row]? =
      some (value, if row < period then none else values[row - period]?) := by
  have hrow : row < values.length := (List.getElem?_eq_some_iff.mp hvalue).1
  rw [List.getElem?_zip_eq_some, getElem?_delayed, if_pos hrow]
  refine ⟨hvalue, ?_⟩
  split <;> rfl

theorem exists_of_getElem?_zip_delayed {period : Nat} {values : List α} {row : Nat}
    {item : α × Option α} (hitem : (values.zip (delayed period values))[row]? = some item) :
    ∃ value, values[row]? = some value ∧
      item = (value, if row < period then none else values[row - period]?) := by
  have hvalue := (List.getElem?_zip_eq_some.mp hitem).1
  rw [getElem?_zip_delayed hvalue] at hitem
  exact ⟨item.1, hvalue, (Option.some.inj hitem).symm⟩

variable [Quantity α] {period : Nat}

/-- The sum of a window that a value enters, and that the oldest one leaves if the window was
full. -/
def slide (sum : α) (item : α × Option α) : α :=
  match item.2 with
  | some oldest => sum + item.1 - oldest
  | none => sum + item.1

/-- One row of a moving average: the number of rows so far and the sum of the window. -/
def movingStep (period : Nat) (state : Nat × α) (item : α × Option α) :
    (Nat × α) × Option α :=
  ((state.1 + 1, slide state.2 item),
    if period ≤ state.1 + 1 then some (slide state.2 item / Quantity.ofNat period) else none)

theorem movingAverage_eq (hperiod : period ≠ 0) (values : List α) :
    movingAverage period values =
      scan (movingStep period) (0, Quantity.ofNat 0) (values.zip (delayed period values)) := by
  rw [movingAverage, if_neg hperiod]
  rfl

/-- The weighted sum and the sum of a window after one more row. -/
def weigh (period row : Nat) (sums : α × α) (item : α × Option α) : α × α :=
  match item.2 with
  | none => (sums.1 + Quantity.ofNat (row + 1) * item.1, sums.2 + item.1)
  | some oldest =>
    (sums.1 + (Quantity.ofNat period * item.1 - sums.2), sums.2 + (item.1 - oldest))

/-- The sum of the weights from 1 to `period`. -/
def totalWeight (period : Nat) : α :=
  Quantity.ofNat period * (Quantity.ofNat period + Quantity.ofNat 1) / Quantity.ofNat 2

/-- One row of a weighted average: the number of rows so far, and the two sums of the window. -/
def weightedStep (period : Nat) (state : Nat × α × α) (item : α × Option α) :
    (Nat × α × α) × Option α :=
  ((state.1 + 1, weigh period state.1 state.2 item),
    if period ≤ state.1 + 1 then some ((weigh period state.1 state.2 item).1 / totalWeight period)
    else none)

theorem weightedAverage_eq (hperiod : period ≠ 0) (values : List α) :
    weightedAverage period values =
      scan (weightedStep period) (0, Quantity.ofNat 0, Quantity.ofNat 0)
        (values.zip (delayed period values)) := by
  rw [weightedAverage, if_neg hperiod]
  rfl

/-- The level of a smoothed mean after one more row: a sum at first, then a mean. -/
def advance (period : Nat) (update : α → α → α) (row : Nat) (level value : α) : α :=
  if row + 1 < period then level + value
  else if row + 1 = period then (level + value) / Quantity.ofNat period
  else update level value

/-- One row of a smoothed mean: the number of rows so far and the level. -/
def smoothingStep (period : Nat) (update : α → α → α) (state : Nat × α) (value : α) :
    (Nat × α) × Option α :=
  ((state.1 + 1, advance period update state.1 state.2 value),
    if state.1 + 1 < period then none else some (advance period update state.1 state.2 value))

theorem smoothed_eq (start : α) (update : α → α → α) (values : List α) :
    smoothed period start update values = scan (smoothingStep period update) (0, start) values := by
  unfold smoothed
  congr 1
  funext state value
  obtain ⟨row, level⟩ := state
  unfold smoothingStep advance
  by_cases hrow : row + 1 < period
  · simp only [if_pos hrow]
  · simp only [if_neg hrow]

@[simp] theorem length_wilder (period : Nat) (values : List α) :
    (wilder period values).length = values.length :=
  length_scan _ _ _

/-! ## Gains and losses -/

/-- How far each value lies above the one before it. -/
def gains (values : List α) : List α :=
  (changes values).map fun change => Quantity.larger change (Quantity.ofNat 0)

/-- How far each value lies below the one before it. -/
def losses (values : List α) : List α :=
  (changes values).map fun change => Quantity.larger (-change) (Quantity.ofNat 0)

@[simp] theorem length_gains (values : List α) : (gains values).length = values.length - 1 := by
  simp [gains, changes]

@[simp] theorem length_losses (values : List α) : (losses values).length = values.length - 1 := by
  simp [losses, changes]

/-- The share of the gains, if both means are present. -/
def strength? : Option α × Option α → Option α
  | (some gain, some loss) => some (strength gain loss)
  | _ => none

theorem strength?_eq_some {means : Option α × Option α} {level : α}
    (hlevel : strength? means = some level) :
    ∃ gain loss, means = (some gain, some loss) ∧ level = strength gain loss := by
  obtain ⟨gain?, loss?⟩ := means
  cases gain? with
  | none => cases hlevel
  | some gain =>
      cases loss? with
      | none => cases hlevel
      | some loss => exact ⟨gain, loss, rfl, (Option.some.inj hlevel).symm⟩

theorem relativeStrength_cons (hperiod : period ≠ 0) (first : α) (rest : List α) :
    relativeStrength period (first :: rest) =
      none :: ((wilder period (gains (first :: rest))).zip
        (wilder period (losses (first :: rest)))).map strength? := by
  unfold relativeStrength
  rw [if_neg hperiod]
  rfl

/-- The first row has no change; in a later row the two means of the changes so far decide. -/
theorem getElem?_relativeStrength_succ (hperiod : period ≠ 0) {values : List α} {row : Nat}
    (hrow : row + 1 < values.length) :
    ∃ gain loss, (wilder period (gains values))[row]? = some gain ∧
      (wilder period (losses values))[row]? = some loss ∧
      (relativeStrength period values)[row + 1]? = some (strength? (gain, loss)) := by
  have hgain : row < (wilder period (gains values)).length := by simp; omega
  have hloss : row < (wilder period (losses values)).length := by simp; omega
  refine ⟨_, _, List.getElem?_eq_getElem hgain, List.getElem?_eq_getElem hloss, ?_⟩
  cases values with
  | nil => exact absurd hrow (Nat.not_lt_zero _)
  | cons first rest =>
      rw [relativeStrength_cons hperiod, List.getElem?_cons_succ, List.getElem?_map,
        List.getElem?_eq_getElem (by rw [List.length_zip]; omega), List.getElem_zip]
      rfl

/-! ## Ranges -/

theorem getElem?_trueRanges_zero {bars : List (Bar α)} {bar : Bar α} (hbar : bars[0]? = some bar) :
    (trueRanges bars)[0]? = some (bar.high - bar.low) := by
  cases bars with
  | nil => cases hbar
  | cons first rest =>
      obtain rfl : first = bar := Option.some.inj hbar
      rfl

theorem getElem?_trueRanges_succ {bars : List (Bar α)} {row : Nat} {previous bar : Bar α}
    (hprevious : bars[row]? = some previous) (hbar : bars[row + 1]? = some bar) :
    (trueRanges bars)[row + 1]? = some (bar.trueRange previous.close) := by
  cases bars with
  | nil => cases hbar
  | cons first rest =>
      have hneighbours : ((first :: rest).zip rest)[row]? = some (previous, bar) :=
        List.getElem?_zip_eq_some.mpr ⟨hprevious, hbar⟩
      rw [trueRanges, List.getElem?_cons_succ, List.getElem?_map, hneighbours]
      rfl

end Screener.Indicator
