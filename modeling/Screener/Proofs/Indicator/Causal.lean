import Screener.Indicator.Average
import Screener.Indicator.Momentum
import Screener.Indicator.Spread
import Screener.Indicator.Volume

/-!
# Causal calculations

A calculation is causal if it gives one value for each row and each value depends on the rows up to
it and on no later one.  The eleven indicators are, whatever numbers they calculate with.

## Strategy

The shapes that indicators are built from are causal: a state carried from row to row, a window, a
delay, and what is made of causal calculations row by row.  The two that look at neighbours are
brought to these shapes first: the true ranges of bars are a first range and one for each pair of
neighbours, and so is relative strength with the changes of prices.
-/

namespace Screener.Indicator

/-- One value for each row that does not depend on later rows. -/
structure Causal {α β : Type} (calculate : List α → List β) : Prop where
  length (values : List α) : (calculate values).length = values.length
  take (values : List α) (n : Nat) : calculate (values.take n) = (calculate values).take n

/-! ## Shapes of calculations -/

namespace Causal

variable {α β γ : Type}

theorem congr {f g : List α → List β} (hf : Causal f) (hfg : ∀ values, g values = f values) :
    Causal g := by
  have heq : g = f := funext hfg
  rw [heq]
  exact hf

theorem map (f : α → β) : Causal (List.map f) where
  length _ := List.length_map f
  take _ _ := List.map_take

theorem comp {g : List β → List γ} {f : List α → List β} (hg : Causal g) (hf : Causal f) :
    Causal fun values => g (f values) where
  length values := by rw [hg.length, hf.length]
  take values n := by rw [hf.take, hg.take]

theorem zip {f : List α → List β} {g : List α → List γ} (hf : Causal f) (hg : Causal g) :
    Causal fun values => (f values).zip (g values) where
  length values := by rw [List.length_zip, hf.length, hg.length, Nat.min_self]
  take values n := by rw [hf.take, hg.take, List.zip, List.take_zipWith, ← List.zip]

theorem scan {σ : Type} (step : σ → α → σ × β) (state : σ) :
    Causal (Indicator.scan step state) where
  length values := length_scan step state values
  take values n := scan_take step state values n

theorem delayed (period : Nat) : Causal (Indicator.delayed (α := α) period) where
  length values := length_delayed period values
  take values n := delayed_take period values n

/-- Each value beside the one `period` rows earlier. -/
theorem zip_delayed (period : Nat) :
    Causal fun values : List α => values.zip (Indicator.delayed period values) :=
  zip (f := fun values => values) ⟨fun _ => rfl, fun _ _ => rfl⟩ (delayed period)

/-- The window of a row ends in the row. -/
theorem windows (period : Nat) : Causal (Indicator.windows (α := α) period) where
  length values := length_windows period values
  take values n := by
    unfold Indicator.windows
    rw [← List.map_take, List.take_range, List.length_take]
    apply List.map_congr_left
    intro row hrow
    have hlt : row < n := by
      have := List.mem_range.mp hrow
      omega
    unfold window
    split
    · rfl
    · next hrows =>
      -- the window ends with its row, which is one of the first `n`
      have hcut : ((values.take n).drop (row + 1 - period)).take period =
          (values.drop (row + 1 - period)).take period := by
        rw [List.drop_take, List.take_take, Nat.min_eq_left (by omega)]
      rw [hcut]

/-- The rows after a first one, each beside the row before it. -/
theorem neighbours (first : α) : Causal fun rest : List α => (first :: rest).zip rest where
  length rest := by simp
  take rest n := by
    induction rest generalizing first n with
    | nil => simp
    | cons second rest ih =>
        cases n with
        | zero => rfl
        | succ n =>
            rw [List.take_succ_cons, List.zip_cons_cons, List.zip_cons_cons, List.take_succ_cons,
              ih]

/-- A first row and then a causal calculation that has seen it. -/
theorem of_cons {f : List α → List β} {head : α → β} {tail : α → List α → List β}
    (hnil : f [] = []) (hcons : ∀ first rest, f (first :: rest) = head first :: tail first rest)
    (htail : ∀ first, Causal (tail first)) : Causal f where
  length values := by
    cases values with
    | nil => rw [hnil]; rfl
    | cons first rest => rw [hcons, List.length_cons, List.length_cons, (htail first).length]
  take values n := by
    cases values with
    | nil => rw [List.take_nil, hnil, List.take_nil]
    | cons first rest =>
        cases n with
        | zero => exact hnil
        | succ n =>
            rw [List.take_succ_cons, hcons, hcons, List.take_succ_cons, (htail first).take]

end Causal

/-! ## The indicators -/

variable {α : Type} [Quantity α]

omit [Quantity α] in
theorem causal_absent {β : Type} : Causal (absent : List β → List (Option α)) :=
  .map fun _ => none

omit [Quantity α] in
/-- A calculation that gives no value for an empty window is causal if it is for the others. -/
private theorem causal_of_ite {β : Type} {period : Nat}
    {calculate nonempty : List β → List (Option α)}
    (hcalculate : ∀ values,
      calculate values = if period = 0 then absent values else nonempty values)
    (hnonempty : Causal nonempty) : Causal calculate := by
  by_cases hperiod : period = 0
  · exact causal_absent.congr fun values => by rw [hcalculate, if_pos hperiod]
  · exact hnonempty.congr fun values => by rw [hcalculate, if_neg hperiod]

theorem causal_movingAverage (period : Nat) :
    Causal (movingAverage period : List α → List (Option α)) :=
  causal_of_ite (fun _ => rfl) ((Causal.scan _ _).comp (.zip_delayed period))

theorem causal_weightedAverage (period : Nat) :
    Causal (weightedAverage period : List α → List (Option α)) :=
  causal_of_ite (fun _ => rfl) ((Causal.scan _ _).comp (.zip_delayed period))

theorem causal_smoothed (period : Nat) (start : α) (update : α → α → α) :
    Causal (smoothed period start update) :=
  .scan _ _

theorem causal_wilder (period : Nat) : Causal (wilder period : List α → List (Option α)) :=
  (causal_smoothed period _ _).congr fun _ => rfl

theorem causal_exponentialAverage (period : Nat) :
    Causal (exponentialAverage period : List α → List (Option α)) :=
  causal_of_ite (fun _ => rfl) (causal_smoothed _ _ _)

theorem causal_relativeStrength (period : Nat) :
    Causal (relativeStrength period : List α → List (Option α)) := by
  have hmeans : ∀ (side : α → α) (first : α), Causal fun rest : List α =>
      (wilder period ((changes (first :: rest)).map side) : List (Option α)) := by
    intro side first
    have hchanges : Causal fun rest : List α => changes (first :: rest) :=
      (Causal.map _).comp (.neighbours first)
    exact (causal_wilder period).comp ((Causal.map side).comp hchanges)
  refine causal_of_ite (fun _ => rfl) (Causal.of_cons rfl (fun _ _ => rfl) fun first => ?_)
  exact (Causal.map _).comp ((hmeans _ first).zip (hmeans _ first))

theorem causal_rateOfChange (period : Nat) :
    Causal (rateOfChange period : List α → List (Option α)) :=
  (Causal.map _).comp (.zip_delayed period)

theorem causal_standardDeviation (period : Nat) :
    Causal (standardDeviation period : List α → List (Option α)) :=
  (Causal.map _).comp (.windows period)

theorem causal_bollinger (period : Nat) (width : α) (side : Band) :
    Causal (bollinger period width side : List α → List (Option α)) :=
  (Causal.map _).comp (.windows period)

theorem causal_trueRanges : Causal (trueRanges : List (Bar α) → List α) := by
  refine Causal.of_cons rfl (fun _ _ => rfl) fun first => ?_
  exact (Causal.map _).comp (.neighbours first)

theorem causal_averageTrueRange (period : Nat) :
    Causal (averageTrueRange period : List (Bar α) → List (Option α)) :=
  causal_of_ite (fun _ => rfl) ((causal_wilder period).comp causal_trueRanges)

theorem causal_onBalanceVolume : Causal (onBalanceVolume : List (Bar α) → List (Option α)) :=
  .scan _ _

end Screener.Indicator
