import Mathlib.Algebra.Order.Field.Rat
import Mathlib.Tactic.FieldSimp
import Mathlib.Tactic.Linarith
import Mathlib.Tactic.Positivity
import Mathlib.Tactic.Ring
import Screener.Proofs.Indicator.Causal
import Screener.Proofs.Indicator.Guarded
import Screener.Proofs.Indicator.Warmup

/-!
# Smoothed means stay in range

A smoothed mean starts as the plain mean of the first values and then moves a part of the way to
each new one.  In exact arithmetic it never leaves the range of the values it has seen.

## Strategy

Between two bounds of all values the level of a row is either a sum of `row` values, and so between
`row` times the bounds, or a mean between the bounds themselves (`Settled`).  A row keeps this
(`Settled.advance`): a value is added, the sum is divided by the number of rows, or the level moves
to a point between itself and a value (`Blends`).  Because smoothing is causal the least and the
greatest value up to the row serve as bounds.

True ranges and the gains and losses of relative strength are not negative, and so neither are their
means; from means that are not negative the strength is between 0 and 100.
-/

namespace Screener.Indicator

open Guarded

variable {K : Type} [Field K] [LinearOrder K]

/-- Between the least and the greatest of some values. -/
def Within (values : List K) (level : K) : Prop :=
  ∃ low ∈ values.min?, ∃ high ∈ values.max?, low ≤ level ∧ level ≤ high

omit [Field K] in
theorem Within.le {values : List K} {level bound : K} (hlevel : Within values level)
    (hvalues : ∀ value ∈ values, bound ≤ value) : bound ≤ level := by
  obtain ⟨low, hlow, -, -, hle, -⟩ := hlevel
  exact (hvalues low (List.min?_mem hlow)).trans hle

omit [Field K] in
theorem exists_bounds {values : List K} (hvalues : values ≠ []) :
    ∃ low ∈ values.min?, ∃ high ∈ values.max?, ∀ value ∈ values, low ≤ value ∧ value ≤ high := by
  obtain ⟨low, hlow⟩ := Option.ne_none_iff_exists'.mp (mt List.min?_eq_none_iff.mp hvalues)
  obtain ⟨high, hhigh⟩ := Option.ne_none_iff_exists'.mp (mt List.max?_eq_none_iff.mp hvalues)
  exact ⟨low, hlow, high, hhigh, fun value hvalue =>
    ⟨(List.min?_eq_some_iff.mp hlow).2 value hvalue,
      (List.max?_eq_some_iff.mp hhigh).2 value hvalue⟩⟩

/-- An update that moves a level a fixed part of the way to a value. -/
def Blends (update : K → K → K) : Prop :=
  ∃ share, 0 ≤ share ∧ share ≤ 1 ∧
    ∀ level value, update level value = (1 - share) * level + share * value

/-- The level of a row whose values are between two bounds: a sum of so many values while the first
mean is not there, a mean from then on. -/
def Settled (period : Nat) (low high : K) (row : Nat) (level : K) : Prop :=
  if row < period then row * low ≤ level ∧ level ≤ row * high else low ≤ level ∧ level ≤ high

variable [IsStrictOrderedRing K] {period row : Nat} {update : K → K → K}

theorem Blends.mem (hupdate : Blends update) {low high level value : K}
    (hlevel : low ≤ level ∧ level ≤ high) (hvalue : low ≤ value ∧ value ≤ high) :
    low ≤ update level value ∧ update level value ≤ high := by
  obtain ⟨share, hshare, hrest, hblend⟩ := hupdate
  rw [hblend]
  constructor
  · calc low = (1 - share) * low + share * low := by ring
      _ ≤ (1 - share) * level + share * value :=
        add_le_add (mul_le_mul_of_nonneg_left hlevel.1 (sub_nonneg.mpr hrest))
          (mul_le_mul_of_nonneg_left hvalue.1 hshare)
  · calc (1 - share) * level + share * value
        ≤ (1 - share) * high + share * high :=
        add_le_add (mul_le_mul_of_nonneg_left hlevel.2 (sub_nonneg.mpr hrest))
          (mul_le_mul_of_nonneg_left hvalue.2 hshare)
      _ = high := by ring

theorem blends_exponential (hperiod : 1 ≤ period) :
    Blends fun level value : K =>
      value * (2 / (period + 1)) + level * (1 - 2 / (period + 1)) := by
  have hone : (1 : K) ≤ period := Nat.one_le_cast.mpr hperiod
  have hcount : (0 : K) < period + 1 := by positivity
  refine ⟨(2 : K) / (period + 1), by positivity, ?_, fun _ _ => by ring⟩
  rw [div_le_one hcount]
  linarith

theorem blends_wilder (hperiod : 1 ≤ period) :
    Blends fun level value : K => (level * ((period - 1 : Nat) : K) + value) / period := by
  have hone : (1 : K) ≤ period := Nat.one_le_cast.mpr hperiod
  have hcount : (0 : K) < period := zero_lt_one.trans_le hone
  refine ⟨1 / (period : K), by positivity, (div_le_one hcount).mpr hone, fun level value => ?_⟩
  rw [Nat.cast_sub hperiod, Nat.cast_one]
  field_simp

variable [Rooted K]

/-- A row keeps the level in its range. -/
theorem Settled.advance (hupdate : Blends update) {low high level value : K}
    (hlevel : Settled period low high row level) (hvalue : low ≤ value ∧ value ≤ high) :
    Settled period low high (row + 1) (advance period update row level value) := by
  unfold Settled at hlevel ⊢
  unfold Indicator.advance
  rcases Nat.lt_trichotomy (row + 1) period with hrow | hrow | hrow
  · rw [if_pos (by omega)] at hlevel
    rw [if_pos hrow, if_pos hrow]
    push_cast
    constructor <;> linarith [hlevel.1, hlevel.2, hvalue.1, hvalue.2]
  · rw [if_pos (by omega)] at hlevel
    have hrows : (0 : K) < period := Nat.cast_pos.mpr (by omega)
    have hcount : (period : K) = row + 1 := by exact_mod_cast hrow.symm
    rw [if_neg (by omega), if_neg (by omega), if_pos hrow, Quantity.ofNat_exact, le_div_iff₀ hrows,
      div_le_iff₀ hrows, hcount]
    constructor <;> linarith [hlevel.1, hlevel.2, hvalue.1, hvalue.2]
  · rw [if_neg (by omega)] at hlevel
    rw [if_neg (by omega), if_neg (by omega), if_neg (by omega)]
    exact hupdate.mem hlevel hvalue

/-- Bounds of the values are bounds of their smoothed mean. -/
theorem mem_of_smoothed (hperiod : 1 ≤ period) (hupdate : Blends update) {values : List K}
    {low high level : K} (hbounds : ∀ value ∈ values, low ≤ value ∧ value ≤ high)
    (hlevel : (smoothed period 0 update values)[row]? = some (some level)) :
    low ≤ level ∧ level ≤ high := by
  have hrow : row < values.length := by
    rw [← (causal_smoothed period 0 update).length values]
    exact (List.getElem?_eq_some_iff.mp hlevel).1
  have hstart : ((0, 0) : Nat × K).1 = 0 ∧ Settled period low high 0 ((0, 0) : Nat × K).2 := by
    refine ⟨rfl, ?_⟩
    rw [Settled, if_pos (by omega)]
    simp
  obtain ⟨⟨count, mean⟩, ⟨rfl, hmean⟩, hgives⟩ := exists_getElem?_scan
    (smoothingStep period update)
    (fun row (before : Nat × K) => before.1 = row ∧ Settled period low high row before.2)
    hstart
    (by
      rintro row before value hvalue ⟨rfl, hbefore⟩
      exact ⟨rfl, hbefore.advance hupdate (hbounds value (List.mem_of_getElem? hvalue))⟩)
    (List.getElem?_eq_getElem hrow)
  have hnext := hmean.advance hupdate (hbounds _ (List.getElem_mem hrow))
  rw [smoothed_eq] at hlevel
  have hpresent := Option.some.inj (hgives.symm.trans hlevel)
  unfold smoothingStep at hpresent
  by_cases hearly : count + 1 < period
  · rw [if_pos hearly] at hpresent
    cases hpresent
  · rw [if_neg hearly] at hpresent
    rw [Settled, if_neg hearly, Option.some.inj hpresent] at hnext
    exact hnext

/-- A smoothed mean is between the least and the greatest value of its rows. -/
theorem within_smoothed (hperiod : 1 ≤ period) (hupdate : Blends update) {values : List K}
    {level : K} (hlevel : (smoothed period 0 update values)[row]? = some (some level)) :
    Within (values.take (row + 1)) level := by
  have hrow : row < values.length := by
    rw [← (causal_smoothed period 0 update).length values]
    exact (List.getElem?_eq_some_iff.mp hlevel).1
  -- the rows up to this one give the same level, so their bounds are bounds of it
  have hseen : (smoothed period 0 update (values.take (row + 1)))[row]? = some (some level) := by
    rw [(causal_smoothed period 0 update).take, List.getElem?_take_of_lt (Nat.lt_succ_self row),
      hlevel]
  have hrows : values.take (row + 1) ≠ [] :=
    List.ne_nil_of_length_pos (by rw [List.length_take]; omega)
  obtain ⟨low, hlow, high, hhigh, hbounds⟩ := exists_bounds hrows
  exact ⟨low, hlow, high, hhigh, mem_of_smoothed hperiod hupdate hbounds hseen⟩

/-! ## The averages -/

theorem within_exponentialAverage (hperiod : 1 ≤ period) {values : List K} {level : K}
    (hlevel : (exponentialAverage period values)[row]? = some (some level)) :
    Within (values.take (row + 1)) level := by
  rw [exponentialAverage, if_neg (by omega)] at hlevel
  simp only [Quantity.ofNat_exact, Nat.cast_zero, Nat.cast_one, Nat.cast_ofNat] at hlevel
  exact within_smoothed hperiod (blends_exponential hperiod) hlevel

theorem within_wilder (hperiod : 1 ≤ period) {values : List K} {level : K}
    (hlevel : (wilder period values)[row]? = some (some level)) :
    Within (values.take (row + 1)) level := by
  rw [wilder, Quantity.nothing_exact] at hlevel
  exact within_smoothed hperiod (blends_wilder hperiod) hlevel

theorem wilder_nonneg (hperiod : 1 ≤ period) {values : List K}
    (hvalues : ∀ value ∈ values, 0 ≤ value) {level : K}
    (hlevel : (wilder period values)[row]? = some (some level)) : 0 ≤ level :=
  (within_wilder hperiod hlevel).le fun value hvalue => hvalues value (List.mem_of_mem_take hvalue)

/-! ## Relative strength -/

omit [IsStrictOrderedRing K] in
theorem gains_nonneg (values : List K) : ∀ gain ∈ gains values, 0 ≤ gain := by
  intro gain hgain
  obtain ⟨change, -, rfl⟩ := List.mem_map.mp hgain
  simp

omit [IsStrictOrderedRing K] in
theorem losses_nonneg (values : List K) : ∀ loss ∈ losses values, 0 ≤ loss := by
  intro loss hloss
  obtain ⟨change, -, rfl⟩ := List.mem_map.mp hloss
  simp

theorem strength_mem {gain loss : K} (hgain : 0 ≤ gain) (hloss : 0 ≤ loss) :
    0 ≤ strength gain loss ∧ strength gain loss ≤ 100 := by
  unfold strength
  by_cases hnone : loss = 0
  · simp [hnone]
  · have hparts : 1 ≤ 1 + gain / loss := le_add_of_nonneg_right (div_nonneg hgain hloss)
    have hpart : 100 / (1 + gain / loss) ≤ 100 := div_le_self (by norm_num) hparts
    have hpositive : 0 ≤ 100 / (1 + gain / loss) := by positivity
    simp [hnone, hpart, hpositive]

/-- The means of gains and losses in a row with a strength. -/
theorem exists_means_of_relativeStrength (hperiod : 1 ≤ period) {values : List K} {level : K}
    (hlevel : (relativeStrength period values)[row]? = some (some level)) :
    ∃ gain loss, 0 ≤ gain ∧ 0 ≤ loss ∧ level = strength gain loss := by
  have hlength : row < values.length := by
    rw [← (causal_relativeStrength period).length values]
    exact (List.getElem?_eq_some_iff.mp hlevel).1
  cases row with
  | zero =>
      have hmissing := ((missingUntil_relativeStrength hperiod) values 0 hlength).mpr hperiod
      rw [hmissing] at hlevel
      cases hlevel
  | succ row =>
      obtain ⟨gain?, loss?, hgain, hloss, hgives⟩ :=
        getElem?_relativeStrength_succ (show period ≠ 0 by omega) hlength
      obtain ⟨gain, loss, hmeans, hstrength⟩ :=
        strength?_eq_some (Option.some.inj (hgives.symm.trans hlevel))
      obtain ⟨rfl, rfl⟩ := Prod.mk.inj hmeans
      exact ⟨gain, loss, wilder_nonneg hperiod (gains_nonneg values) hgain,
        wilder_nonneg hperiod (losses_nonneg values) hloss, hstrength⟩

/-- Relative strength divides by the number of rows, by losses that are not zero and by a sum that
is at least 1. -/
theorem relativeStrength_number (hperiod : 1 ≤ period) (values : List K) :
    relativeStrength period (values.map number) =
      (relativeStrength period values).map (Option.map number) := by
  have hpositive : period ≠ 0 := by omega
  cases values with
  | nil => simp [relativeStrength, hpositive]
  | cons first rest =>
      rw [relativeStrength_cons hpositive, List.map_cons, relativeStrength_cons hpositive,
        ← List.map_cons, gains_number, losses_number, wilder_number hperiod, wilder_number hperiod,
        List.zip_map, List.map_cons, List.map_map, List.map_map]
      refine congrArg (none :: ·) (List.map_congr_left ?_)
      intro means hmeans
      obtain ⟨hgain, hloss⟩ := List.of_mem_zip hmeans
      obtain ⟨_, hgain⟩ := List.mem_iff_getElem?.mp hgain
      obtain ⟨_, hloss⟩ := List.mem_iff_getElem?.mp hloss
      refine strength?_number (fun gain hmem => ?_) (fun loss hmem => ?_)
      · exact wilder_nonneg hperiod (gains_nonneg (first :: rest))
          (hgain.trans (congrArg some hmem))
      · exact wilder_nonneg hperiod (losses_nonneg (first :: rest))
          (hloss.trans (congrArg some hmem))

/-! ## True ranges -/

theorem trueRange_nonneg (bar : Bar K) (previousClose : K) : 0 ≤ bar.trueRange previousClose := by
  unfold Bar.trueRange
  rw [Quantity.larger_exact, Quantity.abs_exact, Quantity.abs_exact]
  exact le_max_of_le_right (abs_nonneg _)

/-- Only the first range can be negative. -/
theorem trueRanges_nonneg {bars : List (Bar K)}
    (hfirst : ∀ first ∈ bars.head?, first.low ≤ first.high) :
    ∀ range ∈ trueRanges bars, 0 ≤ range := by
  cases bars with
  | nil => exact nofun
  | cons first rest =>
      intro range hrange
      rcases List.mem_cons.mp hrange with rfl | hlater
      · exact sub_nonneg.mpr (hfirst first rfl)
      · obtain ⟨⟨previous, bar⟩, -, rfl⟩ := List.mem_map.mp hlater
        exact trueRange_nonneg bar previous.close

/-! ## All three -/

/-- In exact arithmetic relative strength divides by zero in no step and is between 0 and 100, the
average that never forgets is between the least and the greatest value up to its row, and so is the
smoothed true range, which is not negative unless the first bar is upside down. -/
theorem smoothing_inRange (hperiod : 1 ≤ period) :
    (∀ closes : List K,
      wilder period (gains (closes.map number)) =
        (wilder period (gains closes)).map (Option.map number) ∧
      wilder period (losses (closes.map number)) =
        (wilder period (losses closes)).map (Option.map number) ∧
      relativeStrength period (closes.map number) =
        (relativeStrength period closes).map (Option.map number) ∧
      ∀ (row : Nat) (level : K), (relativeStrength period closes)[row]? = some (some level) →
        0 ≤ level ∧ level ≤ 100) ∧
    (∀ (closes : List K) (row : Nat) (level : K),
      (exponentialAverage period closes)[row]? = some (some level) →
        Within (closes.take (row + 1)) level) ∧
    ∀ (bars : List (Bar K)) (row : Nat) (level : K),
      (averageTrueRange period bars)[row]? = some (some level) →
        Within ((trueRanges bars).take (row + 1)) level ∧
        ∀ first ∈ bars.head?, (trueRanges bars)[0]? = some (first.high - first.low) ∧
          (first.low ≤ first.high → 0 ≤ level) := by
  refine ⟨fun closes => ⟨?_, ?_, relativeStrength_number hperiod closes, ?_⟩,
    fun closes row level hlevel => within_exponentialAverage hperiod hlevel, ?_⟩
  · rw [gains_number, wilder_number hperiod]
  · rw [losses_number, wilder_number hperiod]
  · intro row level hlevel
    obtain ⟨gain, loss, hgain, hloss, rfl⟩ := exists_means_of_relativeStrength hperiod hlevel
    exact strength_mem hgain hloss
  · intro bars row level hlevel
    rw [averageTrueRange, if_neg (by omega)] at hlevel
    refine ⟨within_wilder hperiod hlevel, fun first hfirst => ⟨?_, fun hupright => ?_⟩⟩
    · exact getElem?_trueRanges_zero (by rwa [← List.head?_eq_getElem?])
    · refine wilder_nonneg hperiod (trueRanges_nonneg fun other hother => ?_) hlevel
      obtain rfl : first = other := Option.some.inj (hfirst.symm.trans hother)
      exact hupright

/-- Four bars whose closes rise, fall and rise again. -/
def swing : List (Bar ℚ) :=
  [{ timestamp := ⟨0, false⟩, opening := 10, high := 11, low := 9, close := 10,
     volume := 5, amount := 50 },
   { timestamp := ⟨86400, false⟩, opening := 10, high := 14, low := 10, close := 13,
     volume := 8, amount := 96 },
   { timestamp := ⟨172800, false⟩, opening := 13, high := 13, low := 8, close := 9,
     volume := 7, amount := 70 },
   { timestamp := ⟨259200, false⟩, opening := 9, high := 12, low := 9, close := 12,
     volume := 6, amount := 63 }]

theorem smoothing_inRange_swing :
    ((relativeStrength 2 (swing.map Bar.close))[3]? = some (some (900 / 13)) ∧
      (0 : ℚ) ≤ 900 / 13 ∧ (900 / 13 : ℚ) ≤ 100) ∧
    relativeStrength 2 ((swing.map Bar.close).map number) =
      (relativeStrength 2 (swing.map Bar.close)).map (Option.map number) ∧
    ((exponentialAverage 2 (swing.map Bar.close))[3]? = some (some (203 / 18)) ∧
      Within ((swing.map Bar.close).take 4) (203 / 18)) ∧
    (averageTrueRange 2 swing)[3]? = some (some (7 / 2)) ∧
      Within ((trueRanges swing).take 4) (7 / 2) ∧ (0 : ℚ) ≤ 7 / 2 := by
  obtain ⟨hstrengths, haverages, hranges⟩ := smoothing_inRange (K := ℚ) (show 1 ≤ 2 by decide)
  obtain ⟨-, -, hguarded, hbounds⟩ := hstrengths (swing.map Bar.close)
  have hstrength : (relativeStrength 2 (swing.map Bar.close))[3]? = some (some (900 / 13)) := by
    decide +kernel
  have haverage : (exponentialAverage 2 (swing.map Bar.close))[3]? = some (some (203 / 18)) := by
    decide +kernel
  have hrange : (averageTrueRange 2 swing)[3]? = some (some (7 / 2)) := by decide +kernel
  obtain ⟨hwithin, hfirst⟩ := hranges swing 3 _ hrange
  exact ⟨⟨hstrength, hbounds 3 _ hstrength⟩, hguarded,
    ⟨haverage, haverages _ 3 _ haverage⟩, hrange, hwithin,
    (hfirst _ rfl).2 (by decide +kernel)⟩

end Screener.Indicator
