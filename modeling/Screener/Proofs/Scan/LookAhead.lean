import Screener.Proofs.Formula.FirstRows
import Screener.Proofs.Formula.Sessions
import Screener.Proofs.Scan.Mask

/-!
# No look-ahead

With the standard indicators, what a formula gives in a row depends on the rows up to it only, if no
lag that it reaches looks ahead.  So on the first bars of a history a formula gives the first rows
of what it gives on the whole history, and the test of the latest bar answers what the whole history
says in that row.
-/

namespace Screener

/-- The lags that the condition of a rule reaches are towards earlier rows. -/
def HistoryRule.LooksBack (rule : HistoryRule) (frame : Frame) : Prop :=
  ∀ session,
    rule.declarations.foldlM Session.declare (Session.start frame .standard) = .ok session →
    session.LooksBack rule.condition

/-- Whether no lag of a rule is towards later rows. -/
def HistoryRule.lagsBack (rule : HistoryRule) (frame : Frame) : Bool :=
  match rule.declarations.foldlM Session.declare (Session.start frame .standard) with
  | .ok session => session.lagsBack rule.condition
  | .error _ => true

theorem HistoryRule.looksBack_of_lagsBack {rule : HistoryRule} {frame : Frame}
    (hlags : rule.lagsBack frame = true) : rule.LooksBack frame := by
  intro session hsession
  rw [lagsBack, hsession] at hlags
  exact Session.looksBack_of_lagsBack hlags

theorem Session.LooksBack.keepsLags {session : Session} {source : String}
    (hback : session.LooksBack source) (frame : Frame) (n : Nat) :
    session.KeepsLags (FirstRows frame n) source :=
  fun formula hformula name periods number hreaches _ _ hfirst =>
    hfirst.shift (hback formula hformula name periods number hreaches)

/-- The last of the first rows is the row before row `n`. -/
theorem Series.lastIsTrue_take {series : Series} {n : Nat} (hpos : 1 ≤ n)
    (hn : n ≤ series.length) : (series.take n).lastIsTrue = series.isTrueAt (n - 1) := by
  have hlength : (series.take n).length = n := by
    rw [length_take]
    omega
  have hrow : (series.take n).isTrueAt (n - 1) = series.isTrueAt (n - 1) := by
    cases series with
    | numbers rows => rfl
    | truths rows =>
        show ((rows.take n)[n - 1]? == _) = (rows[n - 1]? == _)
        rw [List.getElem?_take_of_lt (by omega)]
  rw [lastIsTrue, hlength, hrow]
  have hne : (n != 0) = true := by
    rw [bne_iff_ne]
    omega
  rw [hne, Bool.true_and]

theorem HistoryRule.mask_take {rule : HistoryRule} {frame : Frame} (hback : rule.LooksBack frame)
    (n : Nat) :
    Agree (FirstRows frame n) (rule.mask frame .standard) (rule.mask (frame.take n) .standard) :=
  rule.mask_agree (FirstRows.related Registry.regular_standard frame n) fun session hsession =>
    (hback session hsession).keepsLags frame n

/-- **No look-ahead.**  On the first bars of a frame a text gives the first rows of what it gives on
the whole frame, or fails in the same way, and the test of the latest of these bars tells whether
the mask of the whole frame is true there. -/
theorem evaluate_take (frame : Frame) {n : Nat} (hn : n ≤ frame.size) :
    (∀ requests source, ((Session.start frame .standard).after requests).LooksBack source →
      (((Session.start (frame.take n) .standard).after requests).evaluate source).1 =
        (((Session.start frame .standard).after requests).evaluate source).1.map (·.take n)) ∧
    (∀ rule : HistoryRule, rule.LooksBack frame → 1 ≤ n →
      matchesLatestBar (frame.take n) .standard rule =
        (rule.mask frame .standard).map (·.isTrueAt (n - 1))) := by
  constructor
  · intro requests source hback
    have halike :=
      (Session.alike_start frame (frame.take n) .standard).after requests
    have hagree := (halike.evaluate source).2 _
      (FirstRows.related Registry.regular_standard frame n) (hback.keepsLags frame n)
    exact hagree.eq_map fun whole first hfirst => hfirst.take
  · intro rule hback hpos
    rw [matchesLatestBar_eq_map]
    refine (HistoryRule.mask_take hback n).map_eq_map fun whole first hfirst => ?_
    have hlength : n ≤ whole.length := by
      rw [hfirst.length]
      exact hn
    rw [hfirst.take, Series.lastIsTrue_take hpos hlength]

/-- A rule about volume that looks one row back through a declaration. -/
def growingVolume : HistoryRule where
  declarations := [⟨"flow", "obv()"⟩]
  condition := "flow > flow.shift(1) AND volume > 0"

/-- Two days of a rising market. -/
def risingDays : Frame :=
  .ofBars
    [{ timestamp := ⟨0, false⟩, opening := 10, high := 12, low := 9, close := 11,
       volume := 500, amount := 5500 },
     { timestamp := ⟨86400, false⟩, opening := 11, high := 14, low := 11, close := 13,
       volume := 800, amount := 9600 }]

theorem evaluate_take_risingDays :
    let requests := [.define "flow" "obv()", .evaluate "flow"]
    let source := "flow > flow.shift(1)"
    1 ≤ risingDays.size ∧
      ((Session.start risingDays .standard).after requests).LooksBack source ∧
      growingVolume.LooksBack risingDays ∧
      (((Session.start (risingDays.take 1) .standard).after requests).evaluate source).1 =
        (((Session.start risingDays .standard).after requests).evaluate source).1.map (·.take 1) ∧
      matchesLatestBar (risingDays.take 1) .standard growingVolume =
        (growingVolume.mask risingDays .standard).map (·.isTrueAt 0) := by
  intro requests source
  have hsize : 1 ≤ risingDays.size := by decide
  have hsource : ((Session.start risingDays .standard).after requests).LooksBack source :=
    Session.looksBack_of_lagsBack (by decide +kernel)
  have hrule : growingVolume.LooksBack risingDays :=
    HistoryRule.looksBack_of_lagsBack (by decide +kernel)
  obtain ⟨hevaluate, hmatches⟩ := evaluate_take risingDays hsize
  exact ⟨hsize, hsource, hrule, hevaluate requests source hsource,
    hmatches growingVolume hrule (Nat.le_refl 1)⟩

end Screener
