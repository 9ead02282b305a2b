import Screener.Indicator.Standard
import Screener.Proofs.Indicator.Causal

/-!
# The standard indicators are causal

An indicator is regular if its arguments decide what it does: either it refuses them, on every
frame alike, or it makes a causal calculation on the bars.  All standard indicators are regular
(`Registry.regular_standard`).  `Indicator.Uniform` asks less, nothing but the number of values, so
that it holds of calculations that look ahead too.
-/

namespace Screener

namespace Indicator

/-- The arguments decide whether the indicator fails and how, and otherwise it gives one value for
each row. -/
def Uniform (indicator : Indicator) : Prop :=
  ∀ arguments, (∃ e, ∀ frame, indicator frame arguments = .error e) ∨
    ∀ frame, ∃ rows, indicator frame arguments = .ok rows ∧ rows.length = frame.size

/-- The arguments decide on a failure or on a causal calculation. -/
def Regular (indicator : Indicator) : Prop :=
  ∀ arguments, (∃ e, ∀ frame, indicator frame arguments = .error e) ∨
    ∃ calculate : List (Bar Float) → List (Option Float), Causal calculate ∧
      ∀ frame, indicator frame arguments = .ok (calculate frame.bars)

theorem Regular.uniform {indicator : Indicator} (hregular : indicator.Regular) :
    indicator.Uniform := by
  intro arguments
  rcases hregular arguments with hfails | ⟨calculate, hcausal, hgives⟩
  · exact .inl hfails
  · exact .inr fun frame => ⟨_, hgives frame, hcausal.length frame.bars⟩

/-- On the first rows a regular indicator gives the first of its values. -/
theorem Regular.take {indicator : Indicator} (hregular : indicator.Regular) (frame : Frame)
    (n : Nat) (arguments : List Float) :
    indicator (frame.take n) arguments = (indicator frame arguments).map (·.take n) := by
  rcases hregular arguments with ⟨e, hfails⟩ | ⟨calculate, hcausal, hgives⟩
  · rw [hfails, hfails]
    rfl
  · rw [hgives, hgives]
    exact congrArg Except.ok (hcausal.take frame.bars n)

/-! ## One lemma for each way to make an indicator -/

theorem regular_ofPeriod (read : Bar Float → Float)
    {calculate : Nat → List Float → List (Option Float)}
    (hcausal : ∀ rows, Causal (calculate rows)) :
    Regular (ofPeriod (fun frame => frame.bars.map read) calculate) := by
  intro arguments
  match arguments with
  | [] => exact .inl ⟨_, fun _ => rfl⟩
  | _ :: _ :: _ => exact .inl ⟨_, fun _ => rfl⟩
  | [value] =>
      simp only [ofPeriod]
      cases period 0 value with
      | error e => exact .inl ⟨e, fun _ => rfl⟩
      | ok rows =>
          exact .inr ⟨_, (hcausal rows).comp (.map read), fun _ => rfl⟩

theorem regular_atr : Regular atr := by
  intro arguments
  match arguments with
  | [] => exact .inl ⟨_, fun _ => rfl⟩
  | _ :: _ :: _ => exact .inl ⟨_, fun _ => rfl⟩
  | [value] =>
      simp only [atr]
      cases period 0 value with
      | error e => exact .inl ⟨e, fun _ => rfl⟩
      | ok rows => exact .inr ⟨_, causal_averageTrueRange rows, fun _ => rfl⟩

theorem regular_obv : Regular obv := by
  intro arguments
  match arguments with
  | [] => exact .inr ⟨_, causal_onBalanceVolume, fun _ => rfl⟩
  | _ :: _ => exact .inl ⟨_, fun _ => rfl⟩

theorem regular_band (side : Band) : Regular (band side) := by
  intro arguments
  match arguments with
  | [] => exact .inl ⟨_, fun _ => rfl⟩
  | [_] => exact .inl ⟨_, fun _ => rfl⟩
  | _ :: _ :: _ :: _ => exact .inl ⟨_, fun _ => rfl⟩
  | [value, width] =>
      simp only [band]
      cases period 0 value with
      | error e => exact .inl ⟨e, fun _ => rfl⟩
      | ok rows =>
          cases multiplier 1 width with
          | error e => exact .inl ⟨e, fun _ => rfl⟩
          | ok width =>
              exact .inr ⟨_, (causal_bollinger rows width side).comp (.map Bar.close), fun _ => rfl⟩

end Indicator

namespace Registry

/-- All indicators of the registry are uniform. -/
def Uniform (registry : Registry) : Prop :=
  ∀ name indicator, registry.get? name = some indicator → Indicator.Uniform indicator

/-- All indicators of the registry are regular. -/
def Regular (registry : Registry) : Prop :=
  ∀ name indicator, registry.get? name = some indicator → Indicator.Regular indicator

theorem Regular.uniform {registry : Registry} (hregular : registry.Regular) : registry.Uniform :=
  fun name indicator hget => (hregular name indicator hget).uniform

theorem regular_empty : empty.Regular := nofun

theorem mem_of_get?_eq_some {registry : Registry} {name : String} {indicator : Indicator}
    (hget : registry.get? name = some indicator) : (name, indicator) ∈ registry.entries := by
  rw [get?, List.lookup_eq_some_iff] at hget
  obtain ⟨front, back, hentries, _⟩ := hget
  rw [hentries]
  simp

theorem regular_standard : standard.Regular := by
  intro name indicator hget
  have hmem := mem_of_get?_eq_some hget
  simp only [standard, List.mem_cons, Prod.mk.injEq, List.not_mem_nil, or_false] at hmem
  rcases hmem with ⟨_, rfl⟩ | ⟨_, rfl⟩ | ⟨_, rfl⟩ | ⟨_, rfl⟩ | ⟨_, rfl⟩ | ⟨_, rfl⟩ | ⟨_, rfl⟩ |
    ⟨_, rfl⟩ | ⟨_, rfl⟩ | ⟨_, rfl⟩ | ⟨_, rfl⟩
  · exact Indicator.regular_ofPeriod Bar.close Indicator.causal_movingAverage
  · exact Indicator.regular_ofPeriod Bar.close Indicator.causal_exponentialAverage
  · exact Indicator.regular_ofPeriod Bar.close Indicator.causal_weightedAverage
  · exact Indicator.regular_ofPeriod Bar.close Indicator.causal_relativeStrength
  · exact Indicator.regular_ofPeriod Bar.close Indicator.causal_rateOfChange
  · exact Indicator.regular_ofPeriod Bar.close Indicator.causal_standardDeviation
  · exact Indicator.regular_atr
  · exact Indicator.regular_obv
  · exact Indicator.regular_ofPeriod Bar.volume Indicator.causal_movingAverage
  · exact Indicator.regular_band .upper
  · exact Indicator.regular_band .lower

end Registry

end Screener
