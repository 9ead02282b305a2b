import Screener.Proofs.Decimal.NonFinite
import Screener.Proofs.Indicator.Causal
import Screener.Proofs.Indicator.Loops
import Screener.Proofs.Indicator.WindowSums

/-!
# What a window forgets

A calculation over windows of `period` rows should forget a value once it has left the window.  The
spread of a window does, because it is calculated from the window alone.  The moving averages do so
in exact arithmetic only.  Over doubles the value stays in their sums: an undefined or an infinite
one is added to them, cannot be taken out again, and from then on no average is finite.

## Strategy

A window is a part of a list, so two lists that agree on the rows of the window have the same window
there (`contained_windows`).  For the averages the invariant of the loops is that their sums are
lost as soon as a lost value has entered; that a step keeps this is what makes a kind of numbers
absorbing.
-/

namespace Screener.Indicator

variable {α β : Type} {period row : Nat}

/-- Two lists have the same values in the last `period` rows up to a row. -/
def SameWindow (period row : Nat) (left right : List α) : Prop :=
  ∀ k, k ≤ row → row < k + period → left[k]? = right[k]?

/-- What stands in a row depends on the last `period` rows and on no other ones. -/
def Contained (period : Nat) (calculate : List α → List β) : Prop :=
  ∀ left right : List α, left.length = right.length → ∀ row, period ≤ row + 1 →
    SameWindow period row left right → (calculate left)[row]? = (calculate right)[row]?

/-- From a lost value on all results are lost. -/
def Keeps (Lost : α → Prop) (period : Nat) (calculate : List α → List (Option α)) : Prop :=
  ∀ (values : List α) (first : Nat) (value : α), values[first]? = some value → Lost value →
    ∀ row, first ≤ row → period ≤ row + 1 → row < values.length →
    ∃ result, (calculate values)[row]? = some (some result) ∧ Lost result

/-! ## Windows -/

/-- Rows that do not exist are no concern. -/
theorem contained_of_rows {calculate : List α → List β}
    (hlength : ∀ values, (calculate values).length = values.length)
    (hrows : ∀ {left right : List α} {row : Nat}, row < left.length → row < right.length →
      SameWindow period row left right → (calculate left)[row]? = (calculate right)[row]?) :
    Contained period calculate := by
  intro left right hsame row _ hwindow
  by_cases hrow : row < left.length
  · exact hrows hrow (hsame ▸ hrow) hwindow
  · rw [List.getElem?_eq_none (by rw [hlength]; omega),
      List.getElem?_eq_none (by rw [hlength]; omega)]

theorem window_congr {left right : List α} (hwindow : SameWindow period row left right) :
    window period left row = window period right row := by
  unfold window
  split
  · rfl
  · next hfull =>
      refine congrArg some (List.ext_getElem? fun j => ?_)
      by_cases hj : j < period
      · rw [List.getElem?_take_of_lt hj, List.getElem?_take_of_lt hj, List.getElem?_drop,
          List.getElem?_drop]
        exact hwindow _ (by omega) (by omega)
      · rw [List.getElem?_eq_none (by simp; omega), List.getElem?_eq_none (by simp; omega)]

theorem contained_windows (f : List α → β) :
    Contained period fun values => (windows period values).map (·.map f) := by
  refine contained_of_rows (fun values => by simp) fun hleft hright hwindow => ?_
  rw [List.getElem?_map, List.getElem?_map, getElem?_windows hleft, getElem?_windows hright,
    window_congr hwindow]

/-! ## Exact sums -/

section

variable {K : Type} [Field K] [LinearOrder K] [Rooted K]

omit [LinearOrder K] [Rooted K] in
theorem sums_congr {left right : List K} (hwindow : SameWindow period row left right) :
    windowSum period left (row + 1) = windowSum period right (row + 1) ∧
      weightedSum period left (row + 1) = weightedSum period right (row + 1) := by
  have hvalues : ∀ k ∈ Finset.Ico (row + 1 - period) (row + 1),
      left.getD k 0 = right.getD k 0 := by
    intro k hk
    have hbounds := Finset.mem_Ico.mp hk
    rw [List.getD_eq_getElem?_getD, List.getD_eq_getElem?_getD, hwindow k (by omega) (by omega)]
  unfold windowSum weightedSum
  exact ⟨Finset.sum_congr rfl hvalues,
    Finset.sum_congr rfl fun k hk => by rw [hvalues k hk]⟩

/-- In exact arithmetic the moving averages forget what has left their window. -/
theorem contained_averages_exact (hperiod : 1 ≤ period) :
    Contained period (movingAverage period : List K → List (Option K)) ∧
      Contained period (weightedAverage period : List K → List (Option K)) := by
  constructor
  · refine contained_of_rows (causal_movingAverage period).length fun hleft hright hwindow => ?_
    rw [getElem?_movingAverage hperiod hleft, getElem?_movingAverage hperiod hright,
      (sums_congr hwindow).1]
  · refine contained_of_rows (causal_weightedAverage period).length fun hleft hright hwindow => ?_
    rw [getElem?_weightedAverage hperiod hleft, getElem?_weightedAverage hperiod hright,
      (sums_congr hwindow).2]

end

/-! ## Sums that are never finite again -/

variable [Quantity α] {Lost : α → Prop}

theorem lost_slide (hLost : Quantity.Absorbing Lost) {sum : α} {item : α × Option α}
    (h : Lost sum ∨ Lost item.1) : Lost (slide sum item) := by
  unfold slide
  split
  · exact hLost.sub (.inl (hLost.add h))
  · exact hLost.add h

theorem lost_weigh (hLost : Quantity.Absorbing Lost) {sums : α × α} {item : α × Option α}
    (h : Lost sums.1 ∧ Lost sums.2 ∨ Lost item.1) :
    Lost (weigh period row sums item).1 ∧ Lost (weigh period row sums item).2 := by
  unfold weigh
  rcases h with ⟨hweighted, hsum⟩ | hentering
  · split
    · exact ⟨hLost.add (.inl hweighted), hLost.add (.inl hsum)⟩
    · exact ⟨hLost.add (.inl hweighted), hLost.add (.inl hsum)⟩
  · split
    · exact ⟨hLost.add (.inr (hLost.mul (.inr hentering))), hLost.add (.inr hentering)⟩
    · exact ⟨hLost.add (.inr (hLost.sub (.inl (hLost.mul (.inr hentering))))),
        hLost.add (.inr (hLost.sub (.inl hentering)))⟩

omit [Quantity α] in
/-- A loop over values and the ones that leave the window, whose sums are lost after a lost value
has entered, and whose results are lost if its sums are. -/
theorem keeps_scan {σ : Type} {step : Nat × σ → α × Option α → (Nat × σ) × Option α} {start : σ}
    (LostSums : σ → Prop) (hcount : ∀ state item, (step state item).1.1 = state.1 + 1)
    (hsums : ∀ state item, LostSums state.2 ∨ Lost item.1 → LostSums (step state item).1.2)
    (hresult : ∀ state item, LostSums (step state item).1.2 → period ≤ state.1 + 1 →
      ∃ result, (step state item).2 = some result ∧ Lost result) :
    Keeps Lost period fun values => scan step (0, start) (values.zip (delayed period values)) := by
  intro values first value hvalue hlost row hfirst hfull hrow
  -- the item of a row is lost if the row is the first one
  have hentering : ∀ {row : Nat} {item : α × Option α} {sums : σ},
      (values.zip (delayed period values))[row]? = some item → first ≤ row →
      (first < row → LostSums sums) → LostSums sums ∨ Lost item.1 := by
    intro row item sums hitem hle hsums
    rcases hle.lt_or_eq with hlt | rfl
    · exact .inl (hsums hlt)
    · obtain ⟨other, hother, rfl⟩ := exists_of_getElem?_zip_delayed hitem
      obtain rfl : value = other := Option.some.inj (hvalue.symm.trans hother)
      exact .inr hlost
  have hitem := @getElem?_zip_delayed _ period _ _ _ (List.getElem?_eq_getElem hrow)
  have hstart : ((0, start) : Nat × σ).1 = 0 ∧ (first < 0 → LostSums ((0, start) : Nat × σ).2) :=
    ⟨rfl, nofun⟩
  obtain ⟨⟨count, sums⟩, ⟨rfl, hcarried⟩, hgives⟩ := exists_getElem?_scan step
    (fun row (before : Nat × σ) => before.1 = row ∧ (first < row → LostSums before.2)) hstart
    (by
      rintro row before item hitem ⟨rfl, hcarried⟩
      exact ⟨hcount before item, fun hlt =>
        hsums before item (hentering hitem (Nat.lt_succ_iff.mp hlt) hcarried)⟩) hitem
  obtain ⟨result, hgiven, hresult⟩ :=
    hresult (count, sums) _ (hsums (count, sums) _ (hentering hitem hfirst hcarried)) hfull
  exact ⟨result, hgives.trans (congrArg some hgiven), hresult⟩

theorem keeps_movingAverage (hLost : Quantity.Absorbing Lost) (hperiod : 1 ≤ period) :
    Keeps Lost period (movingAverage period) := by
  rw [funext (movingAverage_eq (by omega))]
  refine keeps_scan Lost (fun _ _ => rfl) (fun _ _ h => lost_slide hLost h)
    fun state item hlost hfull => ?_
  exact ⟨_, if_pos hfull, hLost.div hlost⟩

theorem keeps_weightedAverage (hLost : Quantity.Absorbing Lost) (hperiod : 1 ≤ period) :
    Keeps Lost period (weightedAverage period) := by
  rw [funext (weightedAverage_eq (by omega))]
  refine keeps_scan (fun sums => Lost sums.1 ∧ Lost sums.2) (fun _ _ => rfl)
    (fun _ _ h => lost_weigh hLost h) fun state item hlost hfull => ?_
  exact ⟨_, if_pos hfull, hLost.div hlost.1⟩

/-! ## Doubles -/

/-- Over doubles the spread of a window and the bands around its mean depend on the window alone,
whatever stands in it.  The moving averages, of prices as of volumes, would do so if they were
calculated exactly, but they are not: after an undefined value every average is undefined, and after
an infinite one no average is finite, however far behind the value is. -/
theorem windows_contain_sums_keep (hperiod : 1 ≤ period) :
    (Contained period (standardDeviation period : List Float → List (Option Float)) ∧
      ∀ (width : Float) (side : Band), Contained period (bollinger period width side)) ∧
    (Contained period (movingAverage period : List ℚ → List (Option ℚ)) ∧
      Contained period (weightedAverage period : List ℚ → List (Option ℚ))) ∧
    (Keeps (fun x : Float => x.isNaN = true) period (movingAverage period) ∧
      Keeps (fun x : Float => x.isNaN = true) period (weightedAverage period)) ∧
    Keeps (fun x : Float => x.isFinite = false) period (movingAverage period) ∧
      Keeps (fun x : Float => x.isFinite = false) period (weightedAverage period) :=
  ⟨⟨contained_windows deviation, fun _ _ => contained_windows _⟩,
    contained_averages_exact hperiod,
    ⟨keeps_movingAverage Decimal.absorbing_isNaN hperiod,
      keeps_weightedAverage Decimal.absorbing_isNaN hperiod⟩,
    keeps_movingAverage Decimal.absorbing_notFinite hperiod,
    keeps_weightedAverage Decimal.absorbing_notFinite hperiod⟩

/-- The last two of four rows are the same in both columns, but not what their averages are. -/
theorem windows_contain_sums_keep_gap :
    let left : List Float := [0 / 0, 1, 3, 5]
    let right : List Float := [1, 1, 3, 5]
    ((standardDeviation 2 left)[3]? = (standardDeviation 2 right)[3]? ∧
      (bollinger 2 2 .upper left)[3]? = (bollinger 2 2 .upper right)[3]?) ∧
    (∃ mean, (movingAverage 2 left)[3]? = some (some mean) ∧ mean.isNaN = true) ∧
    (movingAverage 2 right)[3]? = some (some 4) ∧
    (∃ mean, (weightedAverage 2 left)[3]? = some (some mean) ∧ mean.isNaN = true) := by
  intro left right
  obtain ⟨⟨hdeviation, hbands⟩, -, ⟨hplain, hweighted⟩, -⟩ :=
    windows_contain_sums_keep (show 1 ≤ 2 by decide)
  have hwindow : SameWindow 2 3 left right := by
    intro k hle hlt
    obtain rfl | rfl : k = 2 ∨ k = 3 := by omega
    · rfl
    · rfl
  have hundefined : ((0 / 0 : Float)).isNaN = true := by decide +kernel
  refine ⟨⟨hdeviation left right rfl 3 (by decide) hwindow,
    hbands 2 .upper left right rfl 3 (by decide) hwindow⟩, ?_, ?_, ?_⟩
  · exact hplain left 0 _ rfl hundefined 3 (by decide) (by decide) (by decide)
  · decide +kernel
  · exact hweighted left 0 _ rfl hundefined 3 (by decide) (by decide) (by decide)

end Screener.Indicator
