import Screener.Indicator.Standard
import Screener.Proofs.Decimal.Value
import Screener.Proofs.Formula.Results

/-!
# Arguments of indicators

What the standard indicators ask of their arguments: none, a period, or a period and a width.  A
period is a double that stands for a whole number of at least one (`IsPeriod`), a width one that
stands for any number.  The first thing that is wrong is the reason of the refusal (`Refuses`), and
arguments with nothing wrong grant a period and a width (`Grants`).
-/

namespace Screener.Indicator

/-- The double stands for a whole number of at least one, and `rows` is that number or, if it is
beyond 64 bits, the greatest number of 64 bits. -/
def IsPeriod (value : Float) (rows : Nat) : Prop :=
  ∃ n : Nat, 1 ≤ n ∧ Decimal.value? value = some (n : ℚ) ∧ rows = min n mostRows

theorem IsPeriod.one_le {value : Float} {rows : Nat} (hperiod : IsPeriod value rows) :
    1 ≤ rows := by
  obtain ⟨n, hn, -, rfl⟩ := hperiod
  exact Nat.le_min.mpr ⟨hn, by decide⟩

theorem period_eq_ok_iff {index : Nat} {value : Float} {rows : Nat} :
    period index value = .ok rows ↔ IsPeriod value rows := by
  have hnatural (n : Nat) :
      (Decimal.Parts.ofFloat value).natural?.filter (1 ≤ ·) = some n ↔
        1 ≤ n ∧ Decimal.value? value = some (n : ℚ) := by
    rw [Option.filter_eq_some_iff, Decimal.natural?_eq_some_iff, decide_eq_true_iff, and_comm]
  unfold period IsPeriod
  split
  · next n hn =>
      rw [Except.ok.injEq]
      constructor
      · rintro rfl
        exact ⟨n, ((hnatural n).mp hn).1, ((hnatural n).mp hn).2, rfl⟩
      · rintro ⟨m, hm, hvalue, rfl⟩
        have hsame : m = n := Option.some.inj (((hnatural m).mpr ⟨hm, hvalue⟩).symm.trans hn)
        rw [hsame]
  · next hnone =>
      refine ⟨nofun, ?_⟩
      rintro ⟨m, hm, hvalue, -⟩
      cases hnone.symm.trans ((hnatural m).mpr ⟨hm, hvalue⟩)

/-- A double stands for one period at most. -/
theorem IsPeriod.unique {value : Float} {rows rows' : Nat} (hperiod : IsPeriod value rows)
    (hperiod' : IsPeriod value rows') : rows = rows' := by
  have hread : period 0 value = .ok rows := period_eq_ok_iff.mpr hperiod
  have hread' : period 0 value = .ok rows' := period_eq_ok_iff.mpr hperiod'
  exact Except.ok.inj (hread.symm.trans hread')

theorem period_eq_error_iff {index : Nat} {value : Float} {e : IndicatorError} :
    period index value = .error e ↔
      (∀ rows, ¬IsPeriod value rows) ∧ e = .invalidPeriod index value := by
  cases hread : period index value with
  | ok rows =>
      refine ⟨nofun, ?_⟩
      rintro ⟨hnone, -⟩
      exact absurd (period_eq_ok_iff.mp hread) (hnone rows)
  | error failure =>
      have hnone : ∀ rows, ¬IsPeriod value rows := by
        intro rows hperiod
        cases (period_eq_ok_iff.mpr hperiod).symm.trans hread
      have hfailure : failure = .invalidPeriod index value := by
        unfold period at hread
        split at hread
        · cases hread
        · exact (Except.error.inj hread).symm
      rw [Except.error.injEq, hfailure]
      exact ⟨fun h => ⟨hnone, h.symm⟩, fun h => h.2.symm⟩

theorem multiplier_eq_ok_iff {index : Nat} {value width : Float} :
    multiplier index value = .ok width ↔ (Decimal.value? value).isSome = true ∧ value = width := by
  rw [Decimal.isSome_value?_iff]
  unfold multiplier
  split
  · next hfinite => simp [hfinite]
  · next hinfinite => simp [hinfinite]

theorem multiplier_eq_error_iff {index : Nat} {value : Float} {e : IndicatorError} :
    multiplier index value = .error e ↔
      Decimal.value? value = none ∧ e = .notFinite index value := by
  rw [← Option.isSome_eq_false_iff.trans Option.isNone_iff_eq_none,
    Bool.eq_false_iff, ne_eq, Decimal.isSome_value?_iff]
  unfold multiplier
  split
  · next hfinite => simp [hfinite]
  · next hinfinite =>
      rw [Except.error.injEq, eq_comm]
      exact (and_iff_right hinfinite).symm

/-- What an indicator asks of its arguments. -/
inductive Demand where
  | nothing
  | period
  | periodAndWidth
  deriving Repr, DecidableEq

namespace Demand

/-- How many arguments an indicator takes. -/
def count : Demand → Nat
  | nothing => 0
  | period => 1
  | periodAndWidth => 2

/-- Why arguments are refused.  Their number is looked at first, then the period, then the
width. -/
inductive Refuses : Demand → List Float → IndicatorError → Prop where
  | arity {demand : Demand} {arguments : List Float} (hcount : arguments.length ≠ demand.count) :
    Refuses demand arguments (.arity demand.count arguments.length)
  | period {demand : Demand} {value : Float} {rest : List Float}
    (hcount : (value :: rest).length = demand.count) (hperiod : ∀ rows, ¬IsPeriod value rows) :
    Refuses demand (value :: rest) (.invalidPeriod 0 value)
  | width {value width : Float} {rows : Nat} (hperiod : IsPeriod value rows)
    (hwidth : Decimal.value? width = none) :
    Refuses periodAndWidth [value, width] (.notFinite 1 width)

/-- What arguments stand for; where nothing is asked for, any period and width will do. -/
inductive Grants : Demand → List Float → Nat → Float → Prop where
  | nothing (rows : Nat) (width : Float) : Grants nothing [] rows width
  | period {value : Float} {rows : Nat} (hperiod : IsPeriod value rows) (width : Float) :
    Grants period [value] rows width
  | periodAndWidth {value width : Float} {rows : Nat} (hperiod : IsPeriod value rows)
    (hwidth : (Decimal.value? width).isSome = true) :
    Grants periodAndWidth [value, width] rows width

/-- The period and the width that arguments stand for, or the first thing that is wrong. -/
def read : Demand → List Float → Except IndicatorError (Nat × Float)
  | nothing, [] => return (1, 0)
  | period, [value] => do return (← Indicator.period 0 value, 0)
  | periodAndWidth, [value, width] => do
    return (← Indicator.period 0 value, ← multiplier 1 width)
  | demand, arguments => .error (.arity demand.count arguments.length)

theorem read_of_length_ne {demand : Demand} {arguments : List Float}
    (hcount : arguments.length ≠ demand.count) :
    demand.read arguments = .error (.arity demand.count arguments.length) := by
  unfold read
  split
  · exact absurd rfl hcount
  · exact absurd rfl hcount
  · exact absurd rfl hcount
  · rfl

/-- Arguments that are read stand for what is read. -/
theorem grants_of_read {demand : Demand} {arguments : List Float} {rows : Nat} {width : Float}
    (hread : demand.read arguments = .ok (rows, width)) :
    demand.Grants arguments rows width ∧ 1 ≤ rows := by
  unfold read at hread
  split at hread
  · cases hread
    exact ⟨.nothing 1 0, Nat.le_refl 1⟩
  · next value =>
      obtain ⟨read, hperiod, hrest⟩ := bind_eq_ok hread
      cases hrest
      have hrows := period_eq_ok_iff.mp hperiod
      exact ⟨.period hrows 0, hrows.one_le⟩
  · next value given =>
      obtain ⟨read, hperiod, hrest⟩ := bind_eq_ok hread
      obtain ⟨finite, hwidth, hrest⟩ := bind_eq_ok hrest
      cases hrest
      have hrows := period_eq_ok_iff.mp hperiod
      obtain ⟨hsome, rfl⟩ := multiplier_eq_ok_iff.mp hwidth
      exact ⟨.periodAndWidth hrows hsome, hrows.one_le⟩
  · cases hread

/-- Reading fails with the first thing that is wrong. -/
theorem read_eq_error_iff {demand : Demand} {arguments : List Float} {e : IndicatorError} :
    demand.read arguments = .error e ↔ demand.Refuses arguments e := by
  constructor
  · intro herror
    by_cases hcount : arguments.length = demand.count
    · match demand, arguments with
      | .nothing, [] => cases herror
      | .period, [value] =>
          rcases bind_eq_error herror with hperiod | ⟨rows, hperiod, hrest⟩
          · obtain ⟨hnone, rfl⟩ := period_eq_error_iff.mp hperiod
            exact .period rfl hnone
          · cases hrest
      | .periodAndWidth, [value, width] =>
          rcases bind_eq_error herror with hperiod | ⟨rows, hperiod, hrest⟩
          · obtain ⟨hnone, rfl⟩ := period_eq_error_iff.mp hperiod
            exact .period rfl hnone
          · rcases bind_eq_error hrest with hwidth | ⟨finite, hwidth, hrest⟩
            · obtain ⟨hnone, rfl⟩ := multiplier_eq_error_iff.mp hwidth
              exact .width (period_eq_ok_iff.mp hperiod) hnone
            · cases hrest
    · rw [read_of_length_ne hcount] at herror
      cases herror
      exact .arity hcount
  · intro hrefuses
    cases hrefuses with
    | arity hcount => exact read_of_length_ne hcount
    | @period _ value rest hcount hnone =>
        have herror : Indicator.period 0 value = .error (.invalidPeriod 0 value) :=
          period_eq_error_iff.mpr ⟨hnone, rfl⟩
        match demand, rest with
        | .period, [] => simp only [read, herror]; rfl
        | .periodAndWidth, [width] => simp only [read, herror]; rfl
    | @width value width rows hperiod hwidth =>
        have herror : multiplier 1 width = .error (.notFinite 1 width) :=
          multiplier_eq_error_iff.mpr ⟨hwidth, rfl⟩
        simp only [read, period_eq_ok_iff.mpr hperiod, herror]
        rfl

end Demand

end Screener.Indicator
