import Screener.Proofs.Formula.Missing
import Screener.Proofs.Scan.LookAhead

/-!
# Decisions on missing entries

The test of a history reads the last row of a mask, and a missing entry counts as not true there.
So a ticker may be rejected because its indicators have not seen enough rows, but no ticker
qualifies for such a reason, and none whose last row is decided is judged differently once the
indicators say more.
-/

namespace Screener

namespace Series

/-- The truth value in the last row, if there is one and it is present. -/
def lastTruth? : Series → Option Bool
  | truths rows => rows[rows.length - 1]?.join
  | numbers _ => none

theorem lastIsTrue_eq_true_iff (series : Series) :
    series.lastIsTrue = true ↔ series.lastTruth? = some true := by
  cases series with
  | numbers rows => simp [lastIsTrue, isTrueAt, lastTruth?]
  | truths rows =>
      simp only [lastIsTrue, isTrueAt, lastTruth?, length, Bool.and_eq_true, bne_iff_ne,
        beq_iff_eq, Option.join_eq_some_iff]
      constructor
      · rintro ⟨-, hlast⟩
        exact hlast
      · intro hlast
        have hlt := (List.getElem?_eq_some_iff.mp hlast).1
        exact ⟨by omega, hlast⟩

/-- What is decided in the last row stays decided. -/
theorem FilledIn.lastTruth? {s s' : Series} (hfilled : FilledIn s s') {truth : Bool}
    (hlast : s.lastTruth? = some truth) : s'.lastTruth? = some truth := by
  cases hfilled with
  | numbers hrows => cases hlast
  | truths hrows =>
      have hpresent := Option.join_eq_some_iff.mp hlast
      rw [hrows.length_eq] at hpresent
      exact Option.join_eq_some_iff.mpr (hrows.getElem?_eq_some hpresent)

end Series

variable {frame : Frame} {registry registry' : Registry}

theorem HistoryRule.mask_filled (hregistry : registry.FilledIn frame registry')
    (rule : HistoryRule) :
    Agree (FilledSeries frame) (rule.mask frame registry) (rule.mask frame registry') :=
  rule.mask_agree_of_names hregistry.names (FilledSeries.related hregistry)
    fun _ _ _ _ _ periods _ _ _ _ hfilled => hfilled.shift periods

/-- **Missing entries decide nothing.**  If indicators come to give values where they gave none,
every question is answered as before, with a series that may have more entries.  In the test of a
history what fails fails as before, and a last row that is decided, be it true or false, stays
so. -/
theorem missing_decides_nothing (hregistry : registry.FilledIn frame registry') :
    (∀ questions, List.Forall₂ (Agree (Option.Rel (FilledSeries frame)))
      ((Session.start frame registry).answers questions)
      ((Session.start frame registry').answers questions)) ∧
    ∀ rule : HistoryRule,
      (∀ failure, matchesLatestBar frame registry rule = .error failure ↔
        matchesLatestBar frame registry' rule = .error failure) ∧
      (matchesLatestBar frame registry rule = .ok true →
        matchesLatestBar frame registry' rule = .ok true) ∧
      ∀ mask truth, rule.mask frame registry = .ok mask → mask.lastTruth? = some truth →
        ∃ mask', rule.mask frame registry' = .ok mask' ∧ mask'.lastTruth? = some truth := by
  refine ⟨fun questions => ?_, fun rule => ?_⟩
  · have halike := Session.alike_start_of_names frame frame hregistry.names
    exact halike.answers (FilledSeries.related hregistry)
      (fun periods _ _ hfilled => hfilled.shift periods) questions
  · have hmasks := rule.mask_filled hregistry
    rw [matchesLatestBar_eq_map, matchesLatestBar_eq_map]
    generalize rule.mask frame registry = result at hmasks ⊢
    generalize rule.mask frame registry' = result' at hmasks ⊢
    cases hmasks with
    | error e => exact ⟨fun failure => Iff.rfl, nofun, nofun⟩
    | @ok mask mask' hfilled =>
        refine ⟨fun failure => ⟨nofun, nofun⟩, fun htrue => ?_, ?_⟩
        · have hlast := (Series.lastIsTrue_eq_true_iff mask).mp (Except.ok.inj htrue)
          have hlast' := hfilled.filled.lastTruth? hlast
          exact congrArg Except.ok ((Series.lastIsTrue_eq_true_iff mask').mpr hlast')
        · rintro _ truth ⟨⟩ hlast
          exact ⟨mask', rfl, hfilled.filled.lastTruth? hlast⟩

/-- An indicator without arguments: the spread of each bar from a row on. -/
def spreadFrom (first : Nat) : Registry :=
  Registry.empty.register "spread" fun frame _ =>
    .ok (frame.bars.zipIdx.map fun (bar, row) =>
      if first ≤ row then some (bar.high - bar.low) else none)

theorem filledIn_spreadFrom (frame : Frame) {first first' : Nat} (hfirst : first' ≤ first) :
    (spreadFrom first).FilledIn frame (spreadFrom first') where
  names name := by
    unfold Registry.contains spreadFrom
    rw [Registry.get?_register, Registry.get?_register]
    by_cases hname : name = "spread" <;> simp [hname]
  calls {name indicator indicator'} hindicator hindicator' arguments := by
    unfold spreadFrom at hindicator hindicator'
    rw [Registry.get?_register] at hindicator hindicator'
    by_cases hname : name = "spread"
    · rw [if_pos hname] at hindicator hindicator'
      cases hindicator
      cases hindicator'
      refine .ok ⟨by simp [Frame.size], ?_⟩
      rw [FilledRows, List.forall₂_map_left_iff, List.forall₂_map_right_iff, List.forall₂_same]
      rintro ⟨bar, row⟩ - value hvalue
      by_cases hrow : first ≤ row
      · simp only [if_pos hrow] at hvalue
        simp only [if_pos (Nat.le_trans hfirst hrow), hvalue]
      · simp only [if_neg hrow] at hvalue
        cases hvalue
    · rw [if_neg hname] at hindicator
      cases hindicator

/-- A rule about the spread, through a declaration. -/
def wideDays (limit : String) : HistoryRule where
  declarations := [⟨"wide", "spread() > " ++ limit⟩]
  condition := "wide"

theorem missing_decides_nothing_spread :
    (spreadFrom 1).FilledIn risingDays (spreadFrom 0) ∧
      List.Forall₂ (Agree (Option.Rel (FilledSeries risingDays)))
        ((Session.start risingDays (spreadFrom 1)).answers [.evaluate "spread()"])
        ((Session.start risingDays (spreadFrom 0)).answers [.evaluate "spread()"]) ∧
      matchesLatestBar risingDays (spreadFrom 1) (wideDays "2") = .ok true ∧
      matchesLatestBar risingDays (spreadFrom 0) (wideDays "2") = .ok true ∧
      ∃ mask mask', (wideDays "5").mask risingDays (spreadFrom 1) = .ok mask ∧
        mask.lastTruth? = some false ∧
        (wideDays "5").mask risingDays (spreadFrom 0) = .ok mask' ∧
        mask'.lastTruth? = some false := by
  have hfilled := filledIn_spreadFrom risingDays (Nat.zero_le 1)
  obtain ⟨hanswers, hrules⟩ := missing_decides_nothing hfilled
  have htrue : matchesLatestBar risingDays (spreadFrom 1) (wideDays "2") = .ok true := by
    decide +kernel
  have hfalse : ((wideDays "5").mask risingDays (spreadFrom 1)).map Series.lastTruth? =
      .ok (some false) := by
    decide +kernel
  obtain ⟨mask, hmask, hlast⟩ := map_eq_ok hfalse
  obtain ⟨mask', hmask', hlast'⟩ := (hrules (wideDays "5")).2.2 mask false hmask hlast
  exact ⟨hfilled, hanswers _, htrue, (hrules (wideDays "2")).2.1 htrue, mask, mask', hmask, hlast,
    hmask', hlast'⟩

end Screener
