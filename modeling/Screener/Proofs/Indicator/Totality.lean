import Screener.Proofs.Indicator.Arguments
import Screener.Proofs.Indicator.Positions
import Screener.Proofs.Indicator.Standard

/-!
# Every standard indicator is total

The eleven standard indicators in a table: what each asks of its arguments, how many rows without a
value it begins with, and its calculation by position.  An indicator fails exactly where the table
refuses the arguments, and with that refusal.  Otherwise it gives one entry for each row, which is
missing in exactly the rows of the warm-up, and the loop over positions gives the same entries, so
that it has never left its lists.
-/

namespace Screener

namespace Indicator

/-- What is known about an indicator. -/
structure Profile where
  name : String
  demand : Demand
  /-- The number of rows without a value at the beginning, from the period. -/
  gap : Nat → Nat
  /-- The entries by position, from the period, the width and the bars. -/
  byPosition : Nat → Float → List (Bar Float) → Option (List (Option Float))

/-- An indicator with a period as its only argument, on a column of the bars. -/
def Profile.ofPeriod (name : String) (read : Bar Float → Float) (gap : Nat → Nat)
    (byPosition : Nat → List Float → Option (List (Option Float))) : Profile where
  name := name
  demand := .period
  gap := gap
  byPosition period _ bars := byPosition period (bars.map read)

/-- A band with a period and a width. -/
def Profile.ofBand (name : String) (side : Band) : Profile where
  name := name
  demand := .periodAndWidth
  gap period := period - 1
  byPosition period width bars := ByPosition.bollinger period width side (bars.map Bar.close)

/-- The standard indicators. -/
def profiles : List Profile :=
  [.ofPeriod "ma" Bar.close (· - 1) ByPosition.movingAverage,
    .ofPeriod "ema" Bar.close (· - 1) ByPosition.exponentialAverage,
    .ofPeriod "wma" Bar.close (· - 1) ByPosition.weightedAverage,
    .ofPeriod "rsi" Bar.close id ByPosition.relativeStrength,
    .ofPeriod "roc" Bar.close id ByPosition.rateOfChange,
    .ofPeriod "stddev" Bar.close (· - 1) ByPosition.standardDeviation,
    { name := "atr", demand := .period, gap := (· - 1),
      byPosition := fun period _ bars => ByPosition.averageTrueRange period bars },
    { name := "obv", demand := .nothing, gap := fun _ => 0,
      byPosition := fun _ _ bars => some (onBalanceVolume bars) },
    .ofPeriod "vol_ma" Bar.volume (· - 1) ByPosition.movingAverage,
    .ofBand "bb_upper" .upper,
    .ofBand "bb_lower" .lower]

/-- The indicator fails exactly with the refusals of its profile.  What is not refused stands for a
period and a width, and there is one entry for each row, missing in exactly the rows of the gap;
the loop over positions gives these entries. -/
def Profile.Fits (profile : Profile) (indicator : Indicator) : Prop :=
  ∀ (frame : Frame) (arguments : List Float),
    (∀ e, indicator frame arguments = .error e ↔ profile.demand.Refuses arguments e) ∧
    ((∀ e, ¬profile.demand.Refuses arguments e) →
      ∃ period width rows, profile.demand.Grants arguments period width ∧
        indicator frame arguments = .ok rows ∧
        profile.byPosition period width frame.bars = some rows ∧
        rows.length = frame.size ∧
        ∀ row, row < frame.size → (rows[row]? = some none ↔ row < profile.gap period))

/-- An indicator that reads its arguments and then calculates on the bars. -/
theorem Profile.fits_of_read {profile : Profile} {indicator : Indicator}
    {calculate : Nat → Float → List (Bar Float) → List (Option Float)}
    (hread : ∀ frame arguments, indicator frame arguments =
      (profile.demand.read arguments).map fun given => calculate given.1 given.2 frame.bars)
    (hcausal : ∀ period width, Causal (calculate period width))
    (hmissing : ∀ period width, 1 ≤ period →
      MissingUntil (profile.gap period) (calculate period width))
    (hposition : ∀ period width bars,
      profile.byPosition period width bars = some (calculate period width bars)) :
    profile.Fits indicator := by
  intro frame arguments
  constructor
  · intro e
    rw [hread, ← Demand.read_eq_error_iff]
    cases profile.demand.read arguments with
    | error e' => rw [Except.map, Except.error.injEq, Except.error.injEq]
    | ok given => exact ⟨nofun, nofun⟩
  · intro haccepted
    cases hgiven : profile.demand.read arguments with
    | error e => exact absurd (Demand.read_eq_error_iff.mp hgiven) (haccepted e)
    | ok given =>
        obtain ⟨period, width⟩ := given
        obtain ⟨hgrants, hperiod⟩ := Demand.grants_of_read hgiven
        refine ⟨period, width, calculate period width frame.bars, hgrants, ?_,
          hposition period width frame.bars, (hcausal period width).length frame.bars,
          hmissing period width hperiod frame.bars⟩
        rw [hread, hgiven]
        rfl

theorem fits_ofPeriod (name : String) (read : Bar Float → Float) {gap : Nat → Nat}
    {calculate : Nat → List Float → List (Option Float)}
    {byPosition : Nat → List Float → Option (List (Option Float))}
    (hcausal : ∀ period, Causal (calculate period))
    (hmissing : ∀ {period}, 1 ≤ period → MissingUntil (gap period) (calculate period))
    (hposition : ∀ period values, byPosition period values = some (calculate period values)) :
    (Profile.ofPeriod name read gap byPosition).Fits
      (ofPeriod (fun frame => frame.bars.map read) calculate) := by
  have hread : ∀ frame arguments, ofPeriod (fun frame => frame.bars.map read) calculate frame
      arguments = (Demand.period.read arguments).map fun given =>
        (fun period (_ : Float) bars => calculate period (bars.map read)) given.1 given.2
          frame.bars := by
    intro frame arguments
    match arguments with
    | [] => rfl
    | _ :: _ :: _ => rfl
    | [value] =>
        simp only [ofPeriod, Demand.read]
        cases period 0 value <;> rfl
  exact Profile.fits_of_read hread (fun period _ => (hcausal period).comp (.map read))
    (fun _ _ hperiod => (hmissing hperiod).comp fun _ => List.length_map read)
    (fun period _ bars => hposition period (bars.map read))

theorem fits_atr : Profile.Fits
    { name := "atr", demand := .period, gap := (· - 1),
      byPosition := fun period _ bars => ByPosition.averageTrueRange period bars } atr := by
  have hread : ∀ frame arguments, atr frame arguments =
      (Demand.period.read arguments).map fun given =>
        (fun period (_ : Float) bars => averageTrueRange period bars) given.1 given.2
          frame.bars := by
    intro frame arguments
    match arguments with
    | [] => rfl
    | _ :: _ :: _ => rfl
    | [value] =>
        simp only [atr, Demand.read]
        cases period 0 value <;> rfl
  exact Profile.fits_of_read hread (fun period _ => causal_averageTrueRange period)
    (fun _ _ hperiod => missingUntil_averageTrueRange hperiod)
    (fun period _ bars => ByPosition.averageTrueRange_eq period bars)

theorem fits_obv : Profile.Fits
    { name := "obv", demand := .nothing, gap := fun _ => 0,
      byPosition := fun _ _ bars => some (onBalanceVolume bars) } obv := by
  have hread : ∀ frame arguments, obv frame arguments =
      (Demand.nothing.read arguments).map fun given =>
        (fun (_ : Nat) (_ : Float) bars => onBalanceVolume bars) given.1 given.2 frame.bars := by
    intro frame arguments
    match arguments with
    | [] => rfl
    | _ :: _ => rfl
  exact Profile.fits_of_read hread (fun _ _ => causal_onBalanceVolume)
    (fun _ _ _ => missingUntil_onBalanceVolume) (fun _ _ _ => rfl)

theorem fits_band (name : String) (side : Band) :
    (Profile.ofBand name side).Fits (band side) := by
  have hread : ∀ frame arguments, band side frame arguments =
      (Demand.periodAndWidth.read arguments).map fun given =>
        (fun period width bars => bollinger period width side (bars.map Bar.close)) given.1 given.2
          frame.bars := by
    intro frame arguments
    match arguments with
    | [] => rfl
    | [_] => rfl
    | _ :: _ :: _ :: _ => rfl
    | [value, width] =>
        simp only [band, Demand.read]
        cases period 0 value with
        | error e => rfl
        | ok rows => cases multiplier 1 width <;> rfl
  exact Profile.fits_of_read hread
    (fun period width => (causal_bollinger period width side).comp (.map Bar.close))
    (fun _ width hperiod =>
      (missingUntil_bollinger hperiod width side).comp fun _ => List.length_map Bar.close)
    (fun period width bars => ByPosition.bollinger_eq period width side (bars.map Bar.close))

end Indicator

open Indicator in
/-- **Every standard indicator is total, with an exact warm-up.**  The names are those of the table,
and each stands for an indicator that fits its profile. -/
theorem Registry.standard_fits :
    Registry.standard.entries.map Prod.fst = profiles.map Profile.name ∧
    ∀ profile ∈ profiles, ∃ indicator,
      Registry.standard.get? profile.name = some indicator ∧ profile.Fits indicator := by
  refine ⟨rfl, fun profile hprofile => ?_⟩
  simp only [profiles, List.mem_cons, List.not_mem_nil, or_false] at hprofile
  rcases hprofile with rfl | rfl | rfl | rfl | rfl | rfl | rfl | rfl | rfl | rfl | rfl
  · exact ⟨_, rfl, fits_ofPeriod _ _ causal_movingAverage missingUntil_movingAverage
      ByPosition.movingAverage_eq⟩
  · exact ⟨_, rfl, fits_ofPeriod _ _ causal_exponentialAverage missingUntil_exponentialAverage
      ByPosition.exponentialAverage_eq⟩
  · exact ⟨_, rfl, fits_ofPeriod _ _ causal_weightedAverage missingUntil_weightedAverage
      ByPosition.weightedAverage_eq⟩
  · exact ⟨_, rfl, fits_ofPeriod _ _ causal_relativeStrength missingUntil_relativeStrength
      ByPosition.relativeStrength_eq⟩
  · exact ⟨_, rfl, fits_ofPeriod _ _ causal_rateOfChange (fun _ => missingUntil_rateOfChange)
      ByPosition.rateOfChange_eq⟩
  · exact ⟨_, rfl, fits_ofPeriod _ _ causal_standardDeviation missingUntil_standardDeviation
      ByPosition.standardDeviation_eq⟩
  · exact ⟨_, rfl, fits_atr⟩
  · exact ⟨_, rfl, fits_obv⟩
  · exact ⟨_, rfl, fits_ofPeriod _ _ causal_movingAverage missingUntil_movingAverage
      ByPosition.movingAverage_eq⟩
  · exact ⟨_, rfl, fits_band _ .upper⟩
  · exact ⟨_, rfl, fits_band _ .lower⟩

/-- Three days with a gain and a loss. -/
def turningDays : Frame :=
  .ofBars
    [{ timestamp := ⟨0, false⟩, opening := 10, high := 12, low := 9, close := 11,
       volume := 500, amount := 5500 },
     { timestamp := ⟨86400, false⟩, opening := 11, high := 14, low := 11, close := 13,
       volume := 800, amount := 9600 },
     { timestamp := ⟨172800, false⟩, opening := 13, high := 13, low := 8, close := 9,
       volume := 700, amount := 7000 }]

open Indicator in
theorem Registry.standard_fits_rsi :
    let profile := Profile.ofPeriod "rsi" Bar.close id ByPosition.relativeStrength
    profile ∈ profiles ∧ ∃ rsi, Registry.standard.get? "rsi" = some rsi ∧
      (∃ rows, rsi turningDays [2] = .ok rows ∧
        ByPosition.relativeStrength 2 turningDays.closes = some rows ∧ rows.length = 3 ∧
        rows[0]? = some none ∧ rows[1]? = some none ∧ rows[2]? ≠ some none) ∧
      rsi turningDays [2.5] = .error (.invalidPeriod 0 2.5) ∧
      rsi turningDays [2, 1] = .error (.arity 1 2) := by
  intro profile
  have hprofile : profile ∈ profiles := .tail _ (.tail _ (.tail _ (.head _)))
  obtain ⟨rsi, hrsi, hfits⟩ := Registry.standard_fits.2 profile hprofile
  have htwo : IsPeriod 2 2 := by
    have hnatural : (Decimal.Parts.ofFloat 2).natural? = some 2 := by decide +kernel
    exact ⟨2, by decide, (Decimal.natural?_eq_some_iff 2 2).mp hnatural, by decide⟩
  have hfraction : ∀ rows, ¬IsPeriod 2.5 rows := by
    rintro rows ⟨n, -, hvalue, -⟩
    have hnatural : (Decimal.Parts.ofFloat 2.5).natural? = none := by decide +kernel
    cases hnatural.symm.trans ((Decimal.natural?_eq_some_iff 2.5 n).mpr hvalue)
  have haccepted : ∀ e, ¬profile.demand.Refuses [2] e := by
    intro e hrefuses
    cases hrefuses with
    | arity hcount => exact hcount rfl
    | period _ hnone => exact hnone 2 htwo
  obtain ⟨period, width, rows, hgrants, hrows, hposition, hlength, hmissing⟩ :=
    (hfits turningDays [2]).2 haccepted
  obtain rfl : 2 = period := by
    cases hgrants with
    | period hperiod => exact htwo.unique hperiod
  refine ⟨hprofile, rsi, hrsi, ⟨rows, hrows, hposition, hlength, ?_, ?_, ?_⟩, ?_, ?_⟩
  · exact (hmissing 0 (by decide)).mpr (by decide)
  · exact (hmissing 1 (by decide)).mpr (by decide)
  · exact fun h => absurd ((hmissing 2 (by decide)).mp h) (by decide)
  · exact ((hfits turningDays [2.5]).1 _).mpr (.period rfl hfraction)
  · exact ((hfits turningDays [2, 1]).1 _).mpr (.arity (by decide))

end Screener
