import Screener.Quantity

/-!
# Row by row

The shapes that indicators have: a state carried from row to row (`scan`), a window that slides
over the rows (`delayed` and `windows`), and a mean that is updated (`smoothed`).  What stands in a
row depends on the rows up to it and on no later one: `scan_take` and `delayed_take` say so.
-/

namespace Screener.Indicator

/-- Carries a state through a list and collects what each step gives. -/
def scan {σ α β : Type} (step : σ → α → σ × β) : σ → List α → List β
  | _, [] => []
  | state, value :: rest => (step state value).2 :: scan step (step state value).1 rest

@[simp] theorem length_scan {σ α β : Type} (step : σ → α → σ × β) (state : σ) (values : List α) :
    (scan step state values).length = values.length := by
  induction values generalizing state with
  | nil => rfl
  | cons value rest ih => simp [scan, ih]

/-- The first rows do not depend on the later ones. -/
theorem scan_take {σ α β : Type} (step : σ → α → σ × β) (state : σ) (values : List α) (n : Nat) :
    scan step state (values.take n) = (scan step state values).take n := by
  induction values generalizing state n with
  | nil => simp [scan]
  | cons value rest ih =>
    cases n with
    | zero => simp [scan]
    | succ n => simp [scan, ih]

/-- The values `period` rows earlier; the first `period` rows have none. -/
def delayed {α : Type} (period : Nat) (values : List α) : List (Option α) :=
  (List.replicate (min period values.length) none ++ values.map some).take values.length

@[simp] theorem length_delayed {α : Type} (period : Nat) (values : List α) :
    (delayed period values).length = values.length := by
  simp [delayed]

theorem getElem?_delayed {α : Type} (period : Nat) (values : List α) (i : Nat) :
    (delayed period values)[i]? =
      if i < values.length then
        if i < period then some none else some values[i - period]?
      else none := by
  unfold delayed
  by_cases hi : i < values.length
  · rw [List.getElem?_take_of_lt hi, if_pos hi]
    by_cases hp : i < period
    · rw [if_pos hp, List.getElem?_append_left (by simp; omega), List.getElem?_replicate]
      simp; omega
    · have hle : min period values.length = period := by omega
      rw [if_neg hp, hle, List.getElem?_append_right (by simp; omega)]
      have : i - period < values.length := by omega
      simp [List.getElem?_eq_getElem this]
  · rw [if_neg hi, List.getElem?_eq_none]
    simp; omega

theorem delayed_take {α : Type} (period : Nat) (values : List α) (n : Nat) :
    delayed period (values.take n) = (delayed period values).take n := by
  apply List.ext_getElem?
  intro i
  rw [getElem?_delayed, List.length_take]
  by_cases hn : i < n
  · have hshift : i - period < n := by omega
    have hlength : i < min n values.length ↔ i < values.length := by omega
    rw [List.getElem?_take_of_lt hn, getElem?_delayed, List.getElem?_take_of_lt hshift]
    simp only [hlength]
  · rw [if_neg (by omega), List.getElem?_eq_none]
    simp
    omega

/-- The `period` values up to a row, if there are so many. -/
def window {α : Type} (period : Nat) (values : List α) (row : Nat) : Option (List α) :=
  if period = 0 ∨ row + 1 < period then none
  else some ((values.drop (row + 1 - period)).take period)

/-- The window of every row. -/
def windows {α : Type} (period : Nat) (values : List α) : List (Option (List α)) :=
  (List.range values.length).map (window period values)

@[simp] theorem length_windows {α : Type} (period : Nat) (values : List α) :
    (windows period values).length = values.length := by
  simp [windows]

variable {α : Type} [Quantity α]

/-- No value in any row. -/
def absent {β : Type} (values : List β) : List (Option α) := values.map fun _ => none

/-- The mean of the first `period` values, added up from `start`, and from then on the mean
updated with each value; missing before that. -/
def smoothed (period : Nat) (start : α) (update : α → α → α) (values : List α) :
    List (Option α) :=
  scan (fun (row, level) value =>
    if row + 1 < period then ((row + 1, level + value), none)
    else
      let level :=
        if row + 1 = period then (level + value) / Quantity.ofNat period else update level value
      ((row + 1, level), some level)) (0, start) values

/-- A mean in which each new value has the weight of one among `period`. -/
def wilder (period : Nat) (values : List α) : List (Option α) :=
  smoothed period Quantity.nothing (fun level value =>
    (level * Quantity.ofNat (period - 1) + value) / Quantity.ofNat period) values

end Screener.Indicator
