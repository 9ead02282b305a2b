import Screener.Indicator.Spread
import Screener.Proofs.Indicator.Warmup

/-!
# Rows by position

The calculations as loops over row numbers.  A loop looks at other rows by their positions, takes
the part of a list between two positions, and finds positions by subtraction.  Here it ends without
a result as soon as a position lies beyond the rows, a part does not lie within its list or a
difference would be below zero.  Every loop gives the result of its calculation, so nothing of this
happens, on no rows and for no period.
-/

namespace Screener.Indicator

variable {σ τ α β : Type}

/-! ## Loops that may end early -/

/-- The difference of two positions, if it is not below zero. -/
def minus? (a b : Nat) : Option Nat := if b ≤ a then some (a - b) else none

/-- The part of a list from a position up to another one, if it lies within the list. -/
def part? (values : List α) (first past : Nat) : Option (List α) :=
  if first ≤ past ∧ past ≤ values.length then some ((values.drop first).take (past - first))
  else none

theorem minus?_of_le {a b : Nat} (h : b ≤ a) : minus? a b = some (a - b) := if_pos h

theorem part?_of_le {values : List α} {first past : Nat} (hfirst : first ≤ past)
    (hpast : past ≤ values.length) :
    part? values first past = some ((values.drop first).take (past - first)) :=
  if_pos ⟨hfirst, hpast⟩

/-- Runs over `count` rows from row `first` on with a step that sees the position of its row. -/
def walk (step : Nat → τ → Option (τ × β)) : (count first : Nat) → τ → Option (List β)
  | 0, _, _ => some []
  | count + 1, first, state => do
    let (state, result) ← step first state
    let results ← walk step count (first + 1) state
    return result :: results

/-- A loop over positions that goes in step with a loop over the values. -/
theorem walk_eq_scan {step : σ → α → σ × β} {positional : Nat → τ → Option (τ × β)}
    (R : Nat → σ → τ → Prop) {values : List α} {first : Nat} {state : σ} {state' : τ}
    (hstart : R first state state')
    (hstep : ∀ row before before' value, values[row]? = some value →
      R (first + row) before before' → ∃ after', R (first + row + 1) (step before value).1 after' ∧
        positional (first + row) before' = some (after', (step before value).2)) :
    walk positional values.length first state' = some (scan step state values) := by
  induction values generalizing first state state' with
  | nil => rfl
  | cons value rest ih =>
      obtain ⟨after', hafter, hgives⟩ := hstep 0 state state' value rfl hstart
      have hrest := ih hafter fun row before before' value hvalue hbefore => by
        have hnext : first + 0 + 1 + row = first + (row + 1) := by omega
        rw [hnext] at hbefore ⊢
        exact hstep (row + 1) before before' value hvalue hbefore
      rw [List.length_cons, walk, ← Nat.add_zero first, hgives]
      simp only [Option.bind_eq_bind, Option.bind_some, hrest, scan]
      rfl

/-- Asks each row on its own. -/
def eachRow (f : Nat → Option β) (count : Nat) : Option (List β) :=
  walk (fun row (_ : Unit) => (f row).map ((), ·)) count 0 ()

theorem scan_self (results : List β) :
    scan (fun (_ : Unit) result => ((), result)) () results = results := by
  induction results with
  | nil => rfl
  | cons result rest ih => rw [scan, ih]

theorem eachRow_eq {f : Nat → Option β} {results : List β}
    (hf : ∀ row, row < results.length → f row = results[row]?) :
    eachRow f results.length = some results := by
  rw [eachRow, walk_eq_scan (fun _ _ _ => True) trivial, scan_self]
  intro row before before' value hvalue _
  have hrow : row < results.length := (List.getElem?_eq_some_iff.mp hvalue).1
  exact ⟨(), trivial, by rw [Nat.zero_add, hf row hrow, hvalue]; rfl⟩

/-! ## The calculations by position -/

variable [Quantity α]

/-- A line at a distance from the mean of a window. -/
def bandOf (period : Nat) (width : α) (side : Band) (values : List α) : α :=
  let middle := Quantity.sum values / Quantity.ofNat period
  let distance := width * deviation values
  match side with
  | .upper => middle + distance
  | .lower => middle - distance

namespace ByPosition

/-- The moving average: the value `period` rows earlier leaves the window. -/
def movingAverage (period : Nat) (values : List α) : Option (List (Option α)) :=
  if period = 0 then some (absent values)
  else
    walk (fun row sum => do
      let value ← values[row]?
      let entered := sum + value
      let sum ← if period ≤ row then do
          let oldest ← values[← minus? row period]?
          some (entered - oldest)
        else some entered
      return (sum, if period ≤ row + 1 then some (sum / Quantity.ofNat period) else none))
      values.length 0 (Quantity.ofNat 0)

/-- The weighted average: after `period` rows the value `period` rows earlier leaves the window. -/
def weightedAverage (period : Nat) (values : List α) : Option (List (Option α)) :=
  if period = 0 then some (absent values)
  else
    walk (fun row (weighted, sum) => do
      let value ← values[row]?
      let (weighted, sum) ← if row < period then
          some (weighted + Quantity.ofNat (row + 1) * value, sum + value)
        else do
          let oldest ← values[← minus? row period]?
          some (weighted + (Quantity.ofNat period * value - sum), sum + (value - oldest))
      let full ← minus? period 1
      return ((weighted, sum), if full ≤ row then some (weighted / totalWeight period) else none))
      values.length 0 (Quantity.ofNat 0, Quantity.ofNat 0)

/-- The exponential average: row `period - 1` has the first mean. -/
def exponentialAverage (period : Nat) (values : List α) : Option (List (Option α)) :=
  if period = 0 then some (absent values)
  else
    let share : α := Quantity.ofNat 2 / (Quantity.ofNat period + Quantity.ofNat 1)
    walk (fun row level => do
      let value ← values[row]?
      let full ← minus? period 1
      if row < full then some (level + value, none)
      else
        let level := if row = full then (level + value) / Quantity.ofNat period
          else value * share + level * (Quantity.ofNat 1 - share)
        some (level, some level))
      values.length 0 (Quantity.ofNat 0)

/-- The updated mean: row `period - 1` has the mean of the part of the list that ends with it. -/
def wilder (period : Nat) (values : List α) : Option (List (Option α)) :=
  walk (fun row level => do
    let full ← minus? period 1
    if row < full then some (level, none)
    else do
      let level ← if row = full then do
          let first ← part? values 0 (row + 1)
          some (Quantity.sum first / Quantity.ofNat period)
        else do
          let value ← values[row]?
          some ((level * Quantity.ofNat full + value) / Quantity.ofNat period)
      some (level, some level))
    values.length 0 (Quantity.ofNat 0)

/-- Relative strength from the two means of the changes. -/
def relativeStrength (period : Nat) (values : List α) : Option (List (Option α)) :=
  if period = 0 ∨ values.length < 2 then some (absent values)
  else do
    let gains ← wilder period (gains values)
    let losses ← wilder period (losses values)
    return none :: (gains.zip losses).map strength?

/-- The change against the value `period` rows earlier. -/
def rateOfChange (period : Nat) (values : List α) : Option (List (Option α)) :=
  eachRow (fun row =>
    if row < period then some none
    else do
      let earlier ← values[← minus? row period]?
      if Quantity.same earlier (Quantity.ofNat 0) then some (some (Quantity.ofNat 0))
      else do
        let value ← values[row]?
        some (some ((value - earlier) / earlier * Quantity.ofNat 100)))
    values.length

/-- The window that ends with a row. -/
def window (period : Nat) (values : List α) (row : Nat) : Option (Option (List α)) :=
  if period = 0 ∨ row + 1 < period then some none
  else do
    let first ← minus? (row + 1) period
    return some (← part? values first (row + 1))

/-- The standard deviation of the window of each row. -/
def standardDeviation (period : Nat) (values : List α) : Option (List (Option α)) :=
  eachRow (fun row => do return (← window period values row).map deviation) values.length

/-- A line at a distance from the mean of the window of each row. -/
def bollinger (period : Nat) (width : α) (side : Band) (values : List α) :
    Option (List (Option α)) :=
  eachRow (fun row => do return (← window period values row).map (bandOf period width side))
    values.length

/-- The range of each bar, seen from the close one row earlier. -/
def trueRanges (bars : List (Bar α)) : Option (List α) :=
  eachRow (fun row => do
    let bar ← bars[row]?
    if row = 0 then some (bar.high - bar.low)
    else do
      let previous ← bars[← minus? row 1]?
      some (bar.trueRange previous.close))
    bars.length

/-- The smoothed true range, which does not look at too few bars. -/
def averageTrueRange (period : Nat) (bars : List (Bar α)) : Option (List (Option α)) :=
  if bars.length < period ∨ period = 0 then some (absent bars)
  else do wilder period (← trueRanges bars)

/-! ## No position is out of range -/

omit [Quantity α] in
/-- Before a row there are rows. -/
theorem exists_earlier {values : List α} {row : Nat} {value : α}
    (hvalue : values[row]? = some value) (count : Nat) :
    ∃ earlier, values[row - count]? = some earlier := by
  have hrow : row < values.length := (List.getElem?_eq_some_iff.mp hvalue).1
  exact ⟨_, List.getElem?_eq_getElem (Nat.lt_of_le_of_lt (Nat.sub_le row count) hrow)⟩

omit [Quantity α] in
/-- Up to a row there is a part of the list. -/
theorem part?_of_getElem? {values : List α} {row : Nat} {value : α}
    (hvalue : values[row]? = some value) {first : Nat} (hfirst : first ≤ row + 1) :
    part? values first (row + 1) = some ((values.drop first).take (row + 1 - first)) :=
  part?_of_le hfirst (List.getElem?_eq_some_iff.mp hvalue).1

theorem movingAverage_eq (period : Nat) (values : List α) :
    movingAverage period values = some (Indicator.movingAverage period values) := by
  unfold movingAverage
  split
  · next hperiod => rw [Indicator.movingAverage, if_pos hperiod]
  · next hperiod =>
      rw [Indicator.movingAverage_eq hperiod, ← (Causal.zip_delayed period).length values]
      refine walk_eq_scan (fun row before sum => before = (row, sum)) rfl ?_
      rintro row before sum item hitem rfl
      obtain ⟨value, hvalue, rfl⟩ := exists_of_getElem?_zip_delayed hitem
      obtain ⟨oldest, holdest⟩ := exists_earlier hvalue period
      refine ⟨_, rfl, ?_⟩
      rw [Nat.zero_add, hvalue]
      by_cases hrow : period ≤ row
      · simp [movingStep, slide, hrow, Nat.not_lt.mpr hrow, minus?_of_le hrow, holdest]
      · simp [movingStep, slide, hrow, Nat.lt_of_not_le hrow]

theorem weightedAverage_eq (period : Nat) (values : List α) :
    weightedAverage period values = some (Indicator.weightedAverage period values) := by
  unfold weightedAverage
  split
  · next hperiod => rw [Indicator.weightedAverage, if_pos hperiod]
  · next hperiod =>
      rw [Indicator.weightedAverage_eq hperiod, ← (Causal.zip_delayed period).length values]
      refine walk_eq_scan (fun row before sums => before = (row, sums)) rfl ?_
      rintro row before sums item hitem rfl
      obtain ⟨value, hvalue, rfl⟩ := exists_of_getElem?_zip_delayed hitem
      obtain ⟨oldest, holdest⟩ := exists_earlier hvalue period
      have hfull : minus? period 1 = some (period - 1) := minus?_of_le (by omega)
      have hrow_full : period - 1 ≤ row ↔ period ≤ row + 1 := by omega
      refine ⟨_, rfl, ?_⟩
      rw [Nat.zero_add, hvalue]
      by_cases hrow : row < period
      · simp [weightedStep, weigh, hrow, hfull, hrow_full]
      · have hle : period ≤ row := Nat.le_of_not_lt hrow
        simp [weightedStep, weigh, hrow, hfull, hrow_full, minus?_of_le hle, holdest]

theorem exponentialAverage_eq (period : Nat) (values : List α) :
    exponentialAverage period values = some (Indicator.exponentialAverage period values) := by
  unfold exponentialAverage
  split
  · next hperiod => rw [Indicator.exponentialAverage, if_pos hperiod]
  · next hperiod =>
      rw [Indicator.exponentialAverage, if_neg hperiod]
      dsimp only
      rw [smoothed_eq]
      refine walk_eq_scan (fun row before level => before = (row, level)) rfl ?_
      rintro row before level value hvalue rfl
      have hfull : minus? period 1 = some (period - 1) := minus?_of_le (by omega)
      have hrow_before : row < period - 1 ↔ row + 1 < period := by omega
      have hrow_first : row = period - 1 ↔ row + 1 = period := by omega
      refine ⟨_, rfl, ?_⟩
      rw [Nat.zero_add, hvalue]
      by_cases hrow : row + 1 < period
      · simp [smoothingStep, advance, hfull, hrow_before, hrow]
      · simp [smoothingStep, advance, hfull, hrow_before, hrow_first, hrow]

theorem sum_take_succ {values : List α} {row : Nat} {value : α}
    (hvalue : values[row]? = some value) :
    Quantity.sum (values.take (row + 1)) = Quantity.sum (values.take row) + value := by
  rw [List.take_add_one, hvalue, Quantity.sum, Quantity.sum, List.foldl_append]
  rfl

/-- Before the first mean is there, the loop over the values carries the sum of what it has seen. -/
theorem wilder_eq {period : Nat} (hperiod : period ≠ 0) (values : List α) :
    wilder period values = some (Indicator.wilder period values) := by
  unfold wilder Indicator.wilder
  rw [smoothed_eq]
  refine walk_eq_scan (fun row before level => before.1 = row ∧
    (row < period → before.2 = Quantity.sum (values.take row)) ∧
    (period ≤ row → before.2 = level)) ⟨rfl, fun _ => rfl, fun h => absurd h (by omega)⟩ ?_
  rintro row ⟨_, carried⟩ level value hvalue ⟨rfl, hsum, hlevel⟩
  rw [Nat.zero_add] at hsum hlevel ⊢
  have hfull : minus? period 1 = some (period - 1) := minus?_of_le (by omega)
  rcases Nat.lt_trichotomy (row + 1) period with hrow | hrow | hrow
  · have hbefore : row < period - 1 := by omega
    refine ⟨level, ⟨rfl, fun _ => ?_, fun h => absurd h (by omega)⟩, ?_⟩
    · rw [sum_take_succ hvalue, ← hsum (by omega)]
      simp [smoothingStep, advance, hrow]
    · simp [smoothingStep, hfull, hbefore, hrow]
  · obtain rfl : period = row + 1 := hrow.symm
    have hpart := part?_of_getElem? hvalue (Nat.zero_le (row + 1))
    have hmean : Quantity.sum (values.take (row + 1)) = carried + value := by
      rw [sum_take_succ hvalue, ← hsum (by omega)]
    refine ⟨_, ⟨rfl, fun h => absurd h (by omega), fun _ => rfl⟩, ?_⟩
    simp [smoothingStep, advance, hfull, hpart, hmean]
  · have hafter : ¬row + 1 < period ∧ row + 1 ≠ period ∧ ¬row < period - 1 ∧ row ≠ period - 1 := by
      omega
    have hcarried : carried = level := hlevel (by omega)
    refine ⟨_, ⟨rfl, fun h => absurd h (by omega), fun _ => rfl⟩, ?_⟩
    simp [smoothingStep, advance, hfull, hafter, hvalue, hcarried]

theorem relativeStrength_eq (period : Nat) (values : List α) :
    relativeStrength period values = some (Indicator.relativeStrength period values) := by
  unfold relativeStrength
  by_cases hperiod : period = 0
  · unfold Indicator.relativeStrength
    rw [if_pos (.inl hperiod), if_pos hperiod]
  · match values with
    | [] => simp [Indicator.relativeStrength, absent]
    | [first] =>
        rw [if_pos (.inr (by simp)), Indicator.relativeStrength_cons hperiod]
        simp [absent, gains, losses, changes, Indicator.wilder, smoothed, scan]
    | first :: second :: rest =>
        have hlong : ¬(period = 0 ∨ (first :: second :: rest).length < 2) := by simp [hperiod]
        rw [if_neg hlong, wilder_eq hperiod, wilder_eq hperiod,
          Indicator.relativeStrength_cons hperiod]
        rfl

theorem rateOfChange_eq (period : Nat) (values : List α) :
    rateOfChange period values = some (Indicator.rateOfChange period values) := by
  rw [rateOfChange, ← (causal_rateOfChange period).length values]
  refine eachRow_eq fun row hrow => ?_
  rw [(causal_rateOfChange period).length] at hrow
  have hvalue : values[row]? = some values[row] := List.getElem?_eq_getElem hrow
  obtain ⟨earlier, hearlier⟩ := exists_earlier hvalue period
  rw [Indicator.rateOfChange, List.getElem?_map, getElem?_zip_delayed hvalue, hvalue]
  by_cases hbefore : row < period
  · simp [hbefore]
  · rw [if_neg hbefore, if_neg hbefore, minus?_of_le (by omega), hearlier]
    by_cases hzero : Quantity.same earlier (Quantity.ofNat 0) = true
    · simp [hearlier, hzero]
    · simp [hearlier, hzero]

omit [Quantity α] in
theorem window_eq {period : Nat} {values : List α} {row : Nat} (hrow : row < values.length) :
    window period values row = some (Indicator.window period values row) := by
  unfold window Indicator.window
  split
  · rfl
  · rw [minus?_of_le (by omega)]
    simp only [Option.bind_eq_bind, Option.bind_some]
    rw [part?_of_le (Nat.sub_le _ _) hrow]
    have hcount : row + 1 - (row + 1 - period) = period := by omega
    rw [hcount]
    rfl

omit [Quantity α] in
theorem eachWindow_eq (period : Nat) (values : List α) (f : List α → α) :
    eachRow (fun row => do return (← window period values row).map f) values.length =
      some ((windows period values).map (·.map f)) := by
  have hlength : ((windows period values).map (·.map f)).length = values.length := by simp
  rw [← hlength]
  refine eachRow_eq fun row hrow => ?_
  rw [hlength] at hrow
  rw [window_eq hrow, List.getElem?_map, getElem?_windows hrow]
  rfl

theorem standardDeviation_eq (period : Nat) (values : List α) :
    standardDeviation period values = some (Indicator.standardDeviation period values) :=
  eachWindow_eq period values deviation

theorem bollinger_eq (period : Nat) (width : α) (side : Band) (values : List α) :
    bollinger period width side values = some (Indicator.bollinger period width side values) :=
  eachWindow_eq period values (bandOf period width side)

theorem trueRanges_eq (bars : List (Bar α)) :
    trueRanges bars = some (Indicator.trueRanges bars) := by
  rw [trueRanges, ← causal_trueRanges.length bars]
  refine eachRow_eq fun row hrow => ?_
  rw [causal_trueRanges.length] at hrow
  have hbar : bars[row]? = some bars[row] := List.getElem?_eq_getElem hrow
  rw [hbar]
  cases row with
  | zero =>
      rw [getElem?_trueRanges_zero hbar]
      rfl
  | succ row =>
      obtain ⟨previous, hprevious⟩ := exists_earlier hbar 1
      rw [Nat.add_sub_cancel] at hprevious
      rw [getElem?_trueRanges_succ hprevious hbar, minus?_of_le (by omega), Nat.add_sub_cancel]
      simp [hprevious]

theorem averageTrueRange_eq (period : Nat) (bars : List (Bar α)) :
    averageTrueRange period bars = some (Indicator.averageTrueRange period bars) := by
  unfold averageTrueRange Indicator.averageTrueRange
  by_cases hperiod : period = 0
  · rw [if_pos (.inr hperiod), if_pos hperiod]
  · rw [if_neg hperiod]
    by_cases hshort : bars.length < period
    · -- with fewer bars than the period no row of the loop has a value
      rw [if_pos (.inl hshort), Option.some_inj]
      apply List.ext_getElem?
      intro row
      by_cases hrow : row < bars.length
      · have hpositive : 1 ≤ period := Nat.pos_of_ne_zero hperiod
        have hrange : row < (Indicator.trueRanges bars).length := by
          rw [causal_trueRanges.length]
          exact hrow
        have hmissing := (missingUntil_wilder hpositive (Indicator.trueRanges bars) row hrange).mpr
          (by omega)
        rw [hmissing, absent, List.getElem?_map, List.getElem?_eq_getElem hrow]
        rfl
      · have habsent : (absent bars : List (Option α)).length = bars.length := List.length_map _
        rw [List.getElem?_eq_none (by omega),
          List.getElem?_eq_none (by rw [length_wilder, causal_trueRanges.length]; omega)]
    · rw [if_neg (by omega), trueRanges_eq]
      exact wilder_eq hperiod _

end ByPosition

end Screener.Indicator
