import Screener.Proofs.Formula.Kinds
import Screener.Proofs.Indicator.Standard
import Screener.Proofs.Scan.Mask

/-!
# Trying rules without data

Rules are validated by trying their formulas on frames without rows.  With indicators that give one
value for each row, or fail because of their arguments, this decides what happens on any rows: a
test fails on all frames, with one failure, or on none.

## Strategy

The relation between two frames is that the series have the same kind and as many entries as their
frames have rows (`SameShape`).  Whether an operator takes its operands is decided by their kinds,
a column is bound in every frame or in none, and every lag keeps the kind and the length.
-/

namespace Screener

/-- Series of one kind, each with one entry for each row of its frame. -/
structure SameShape (env env' : Environment) (s s' : Series) : Prop where
  kind : s'.kind = s.kind
  length : s.length = env.frame.size
  length' : s'.length = env'.frame.size

namespace SameShape

variable {env env' : Environment}

theorem shift {s s' : Series} (hshape : SameShape env env' s s') (periods : Int) :
    SameShape env env' (s.shift periods) (s'.shift periods) where
  kind := by
    have hkind : ∀ series : Series, (series.shift periods).kind = series.kind := by
      intro series
      cases series <;> rfl
    rw [hkind, hkind, hshape.kind]
  length := by rw [Series.length_shift, hshape.length]
  length' := by rw [Series.length_shift, hshape.length']

theorem combine (op : Operator) {left right left' right' : Series}
    (hleft : SameShape env env' left left') (hright : SameShape env env' right right') :
    Agree (SameShape env env') (Series.combine op left right) (Series.combine op left' right') := by
  have hlength : left.length = right.length := hleft.length.trans hright.length.symm
  have hlength' : left'.length = right'.length := hleft.length'.trans hright.length'.symm
  have hsame : op.kind? left'.kind right'.kind = op.kind? left.kind right.kind := by
    rw [hleft.kind, hright.kind]
  -- the kinds decide on both sides whether the operator takes its operands
  cases hkind : op.kind? left.kind right.kind with
  | none =>
      have hmismatch : Series.mismatch op left' right' = Series.mismatch op left right := by
        rw [Series.mismatch, Series.mismatch, hleft.kind, hright.kind]
      rw [Series.combine_of_kind_eq_none hlength hkind,
        Series.combine_of_kind_eq_none hlength' (hsame.trans hkind), hmismatch]
      exact .error _
  | some kind =>
      obtain ⟨result, hresult, hresultKind, hresultLength⟩ := Series.combine_of_kind hlength hkind
      obtain ⟨result', hresult', hresultKind', hresultLength'⟩ :=
        Series.combine_of_kind hlength' (hsame.trans hkind)
      rw [hresult, hresult']
      exact .ok ⟨hresultKind'.trans hresultKind.symm, hresultLength.trans hleft.length,
        hresultLength'.trans hleft.length'⟩

theorem related (hregistry : env'.registry = env.registry) (huniform : env.registry.Uniform) :
    Related (SameShape env env') env env' where
  kind hshape := hshape.kind
  length hshape := ⟨hshape.length, hshape.length'⟩
  combine := combine
  literal value := ⟨rfl, by simp [Series.broadcast, Series.length],
    by simp [Series.broadcast, Series.length]⟩
  column read := ⟨rfl, by simp [Series.ofNumbers, Series.length, Frame.size],
    by simp [Series.ofNumbers, Series.length, Frame.size]⟩
  call c := by
    rw [Environment.compute, Environment.compute, hregistry]
    cases hget : env.registry.get? c.name with
    | none => exact .error _
    | some indicator =>
        rcases huniform c.name indicator hget c.arguments with ⟨e, hfails⟩ | hgives
        · simp only [hfails]
          exact .error _
        · obtain ⟨rows, hrows, hlength⟩ := hgives env.frame
          obtain ⟨rows', hrows', hlength'⟩ := hgives env'.frame
          simp only [hrows, hrows']
          exact .ok ⟨rfl, hlength, hlength'⟩

theorem keepsLags (session : Session) (source : String) :
    session.KeepsLags (SameShape env env') source :=
  fun _ _ _ periods _ _ _ _ hshape => hshape.shift periods

end SameShape

/-! ## Tests on two frames -/

/-- Whether and how a test of a snapshot fails does not depend on the rows. -/
theorem screenSnapshot_agree (frame frame' : Frame) (condition : String) :
    Agree (fun _ _ => True) (screenSnapshot frame condition) (screenSnapshot frame' condition) := by
  have hrelated : Related (SameShape ⟨frame, .empty⟩ ⟨frame', .empty⟩) _ _ :=
    SameShape.related rfl Registry.regular_empty.uniform
  have hmasks := snapshotMask_agree hrelated (SameShape.keepsLags _ condition)
  rw [screenSnapshot_eq_map, screenSnapshot_eq_map]
  exact hmasks.map fun _ _ _ => trivial

/-- Whether and how a test of a history fails does not depend on the rows. -/
theorem matchesLatestBar_agree {registry : Registry} (huniform : registry.Uniform)
    (frame frame' : Frame) (rule : HistoryRule) :
    Agree (fun _ _ => True) (matchesLatestBar frame registry rule)
      (matchesLatestBar frame' registry rule) := by
  have hrelated : Related (SameShape ⟨frame, registry⟩ ⟨frame', registry⟩) _ _ :=
    SameShape.related rfl huniform
  have hmasks := rule.mask_agree hrelated fun session _ =>
    SameShape.keepsLags session rule.condition
  rw [matchesLatestBar_eq_map, matchesLatestBar_eq_map]
  exact hmasks.map fun _ _ _ => trivial

/-! ## Validation -/

namespace Rules

/-- No test of the rules fails, on any rows. -/
def NeverFail (rules : Rules) (registry : Registry) : Prop :=
  (∀ condition ∈ rules.latest, ∀ snapshot,
    ∃ tickers, screenSnapshot snapshot condition = .ok tickers) ∧
  ∀ rule ∈ rules.history, ∀ frame, ∃ answer, matchesLatestBar frame registry rule = .ok answer

/-- A test of the rules fails with the same failure on all rows. -/
def AlwaysFail (rules : Rules) (registry : Registry) (e : Failure) : Prop :=
  (∃ condition ∈ rules.latest, ∀ snapshot, screenSnapshot snapshot condition = .error e) ∨
  ∃ rule ∈ rules.history, ∀ frame, matchesLatestBar frame registry rule = .error e

end Rules

/-- The tests that validation makes: the one on a snapshot first, the one on a history if the first
does not fail. -/
theorem validateExpressions_eq (rules : Rules) (registry : Registry) :
    validateExpressions rules registry =
      (rules.latest.elim (pure ()) fun condition =>
        discard (screenSnapshot (Frame.snapshot []) condition)) >>= fun _ =>
      rules.history.elim (pure ()) fun rule =>
        discard (matchesLatestBar Frame.empty registry rule) := by
  rw [validateExpressions]
  cases rules.latest with
  | none => cases rules.history <;> simp
  | some condition => cases rules.history <;> simp

/-- A step of a validation passes if its test, where there is one, does not fail. -/
private theorem elim_discard_eq_ok_iff {ε α β : Type} (test : Option α) (run : α → Except ε β) :
    (test.elim (pure ()) fun a => discard (run a) : Except ε Unit) = .ok () ↔
      ∀ a ∈ test, ∃ value, run a = .ok value := by
  cases test with
  | none => exact ⟨fun _ => nofun, fun _ => rfl⟩
  | some a =>
      simp only [Option.elim_some, Option.mem_some_iff, forall_eq']
      cases run a with
      | ok value => exact ⟨fun _ => ⟨value, rfl⟩, fun _ => rfl⟩
      | error e => exact ⟨nofun, nofun⟩

private theorem elim_discard_eq_error_iff {ε α β : Type} (test : Option α) (run : α → Except ε β)
    (e : ε) :
    (test.elim (pure ()) fun a => discard (run a) : Except ε Unit) = .error e ↔
      ∃ a ∈ test, run a = .error e := by
  cases test with
  | none => exact ⟨nofun, nofun⟩
  | some a =>
      simp only [Option.elim_some, Option.mem_some_iff, exists_eq_left']
      cases run a with
      | ok value => exact ⟨nofun, nofun⟩
      | error e' =>
          constructor
          · rintro ⟨⟩
            rfl
          · rintro ⟨⟩
            rfl

theorem validateExpressions_eq_ok_iff (rules : Rules) (registry : Registry) :
    validateExpressions rules registry = .ok () ↔
      (∀ condition ∈ rules.latest,
        ∃ tickers, screenSnapshot (Frame.snapshot []) condition = .ok tickers) ∧
      ∀ rule ∈ rules.history,
        ∃ answer, matchesLatestBar Frame.empty registry rule = .ok answer := by
  rw [validateExpressions_eq, ← elim_discard_eq_ok_iff, ← elim_discard_eq_ok_iff]
  cases rules.latest.elim (pure ()) fun condition =>
      (discard (screenSnapshot (Frame.snapshot []) condition) : Except Failure Unit) with
  | ok value => exact ⟨fun h => ⟨rfl, h⟩, fun h => h.2⟩
  | error e => exact ⟨nofun, fun h => nomatch h.1⟩

theorem exists_error_of_validateExpressions {rules : Rules} {registry : Registry} {e : Failure}
    (hfails : validateExpressions rules registry = .error e) :
    (∃ condition ∈ rules.latest, screenSnapshot (Frame.snapshot []) condition = .error e) ∨
      ∃ rule ∈ rules.history, matchesLatestBar Frame.empty registry rule = .error e := by
  rw [validateExpressions_eq] at hfails
  rw [← elim_discard_eq_error_iff, ← elim_discard_eq_error_iff]
  cases hfirst : rules.latest.elim (pure ()) fun condition =>
      (discard (screenSnapshot (Frame.snapshot []) condition) : Except Failure Unit) with
  | ok value =>
      rw [hfirst] at hfails
      exact .inr hfails
  | error e' =>
      rw [hfirst] at hfails
      exact .inl hfails

/-- **Validation decides every run.**  A test fails on a frame exactly if it fails without rows, and
with the same failure.  So rules that pass never fail, and rules that do not fail always. -/
theorem validation_decides {registry : Registry}
    (hregistry : registry = .standard ∨ registry.Uniform) (rules : Rules) :
    (∀ snapshot condition e, screenSnapshot snapshot condition = .error e ↔
      screenSnapshot (Frame.snapshot []) condition = .error e) ∧
    (∀ frame rule e, matchesLatestBar frame registry rule = .error e ↔
      matchesLatestBar Frame.empty registry rule = .error e) ∧
    (validateExpressions rules registry = .ok () ↔ rules.NeverFail registry) ∧
    ∀ e, validateExpressions rules registry = .error e → rules.AlwaysFail registry e := by
  have huniform : registry.Uniform := by
    rcases hregistry with rfl | huniform
    · exact Registry.regular_standard.uniform
    · exact huniform
  have hlatest := fun snapshot => screenSnapshot_agree snapshot (Frame.snapshot [])
  have hhistory := fun frame => matchesLatestBar_agree huniform frame Frame.empty
  refine ⟨fun snapshot condition e => (hlatest snapshot condition).eq_error_iff e,
    fun frame rule e => (hhistory frame rule).eq_error_iff e, ?_, ?_⟩
  · rw [validateExpressions_eq_ok_iff]
    constructor
    · rintro ⟨hcondition, hrule⟩
      constructor
      · intro condition hmem snapshot
        exact (hlatest snapshot condition).exists_ok (hcondition condition hmem)
      · intro rule hmem frame
        exact (hhistory frame rule).exists_ok (hrule rule hmem)
    · rintro ⟨hcondition, hrule⟩
      exact ⟨fun condition hmem => hcondition condition hmem _, fun rule hmem => hrule rule hmem _⟩
  · intro e hfails
    rcases exists_error_of_validateExpressions hfails with ⟨condition, hmem, h⟩ | ⟨rule, hmem, h⟩
    · refine .inl ⟨condition, hmem, fun snapshot => ?_⟩
      exact ((hlatest snapshot condition).eq_error_iff e).mpr h
    · refine .inr ⟨rule, hmem, fun frame => ?_⟩
      exact ((hhistory frame rule).eq_error_iff e).mpr h

/-- The volume of a rising market, as rules. -/
def risingVolume : Rules where
  latest := some "close > open"
  history := some
    { declarations := [⟨"flow", "obv()"⟩]
      condition := "flow > flow.shift(1)" }

theorem risingVolume_neverFail :
    (Registry.standard = .standard ∨ Registry.standard.Uniform) ∧
      risingVolume.NeverFail .standard :=
  ⟨.inl rfl, (validation_decides (.inl rfl) risingVolume).2.2.1.mp (by decide +kernel)⟩

end Screener
