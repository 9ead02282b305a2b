import Screener.Proofs.Scan.Snapshot
import Screener.Proofs.Scan.Source

/-!
# The first scan decides each ticker on its own

The first scan puts the latest bars of all tickers into one table and evaluates its condition there
once.  Yet a ticker passes or not whatever the other tickers are and whatever becomes of them: a
ticker without a latest bar has no row, and a row is kept if its own bar satisfies the condition
(`screenSnapshot_snapshot`).

Only a condition that cannot be evaluated stops a scan, and then it stops every scan in the same way.
-/

namespace Screener

/-- Whether a ticker has a latest bar and the condition is true on it. -/
def Source.passes (source : Source) (timeframe : Timeframe) (condition ticker : String) : Bool :=
  (Market.latestRow ticker (source.history ⟨ticker, timeframe, Market.snapshotLimit⟩)).any
    fun row => satisfies condition row.2

/-- What the first scan of a universe gives on a source. -/
def Service.screened (service : Service (StateM (List Fetch))) (source : Source) (rules : Rules)
    (tickers : List String) : Attempt (List String) :=
  (((service.on source).firstScan rules tickers).run []).1

theorem Market.latestRow_eq_some_iff {ticker : String} {answer : Attempt (List (Bar Float))}
    {row : String × Bar Float} :
    latestRow ticker answer = some row ↔
      row.1 = ticker ∧ ∃ bars, answer = .ok bars ∧ bars.getLast? = some row.2 := by
  obtain ⟨other, bar⟩ := row
  cases answer with
  | error stop => exact ⟨nofun, nofun⟩
  | ok bars =>
      rw [latestRow, Option.map_eq_some_iff]
      constructor
      · rintro ⟨last, hlast, ⟨⟩⟩
        exact ⟨rfl, bars, rfl, hlast⟩
      · rintro ⟨rfl, bars, ⟨⟩, hlast⟩
        exact ⟨bar, hlast, rfl⟩

namespace Source

variable (source : Source) (timeframe : Timeframe) (condition : String)

theorem passes_iff (ticker : String) :
    source.passes timeframe condition ticker = true ↔ ∃ bars bar mask,
      source.history ⟨ticker, timeframe, Market.snapshotLimit⟩ = .ok bars ∧
      bars.getLast? = some bar ∧
      ((Session.start (Frame.ofBars [bar]) .empty).evaluateCondition condition).1 = .ok mask ∧
      mask.isTrueAt 0 = true := by
  rw [passes, Option.any_eq_true]
  constructor
  · rintro ⟨⟨other, bar⟩, hrow, htrue⟩
    obtain ⟨-, bars, hbars, hlast⟩ := Market.latestRow_eq_some_iff.mp hrow
    obtain ⟨mask, hmask⟩ := satisfies_iff.mp htrue
    exact ⟨bars, bar, mask, hbars, hlast, hmask⟩
  · rintro ⟨bars, bar, mask, hbars, hlast, hmask⟩
    refine ⟨(ticker, bar), ?_, satisfies_iff.mpr ⟨mask, hmask⟩⟩
    exact Market.latestRow_eq_some_iff.mpr ⟨rfl, bars, hbars, hlast⟩

/-- The rows that are kept are those of the tickers that pass. -/
theorem map_filter_latestRows (tickers : List String) :
    ((tickers.filterMap fun ticker =>
        Market.latestRow ticker (source.history ⟨ticker, timeframe, Market.snapshotLimit⟩)).filter
      fun row => satisfies condition row.2).map Prod.fst =
        tickers.filter (source.passes timeframe condition) := by
  induction tickers with
  | nil => rfl
  | cons ticker rest ih =>
      rw [List.filterMap_cons, List.filter_cons, passes]
      cases hrow : Market.latestRow ticker
          (source.history ⟨ticker, timeframe, Market.snapshotLimit⟩) with
      | none =>
          -- a ticker without a row does not pass, and the other rows close up
          exact ih
      | some row =>
          obtain ⟨hticker, -⟩ := Market.latestRow_eq_some_iff.mp hrow
          rw [List.filter_cons, Option.any_some]
          by_cases htrue : satisfies condition row.2 = true
          · rw [if_pos htrue, if_pos htrue, List.map_cons, hticker, ih]
          · rw [if_neg htrue, if_neg htrue, ih]

theorem run_snapshot (tickers : List String) (fetched : List Fetch) :
    (source.market.snapshot tickers timeframe).run fetched =
      (Frame.snapshot (tickers.filterMap fun ticker => Market.latestRow ticker
          (source.history ⟨ticker, timeframe, Market.snapshotLimit⟩)),
        fetched ++ tickers.map fun ticker => ⟨ticker, timeframe, Market.snapshotLimit⟩) := by
  have hrows := source.run_mapM_history timeframe Market.snapshotLimit id Market.latestRow tickers
    fetched
  have htable := congrArg (fun given : List (Option (String × Bar Float)) × List Fetch =>
    (Frame.snapshot (given.1.filterMap id), given.2)) hrows
  rw [List.filterMap_map] at htable
  exact htable

end Source

namespace Service

variable (service : Service (StateM (List Fetch))) (source : Source)

theorem run_firstScan {rules : Rules} {condition : String} (hlatest : rules.latest = some condition)
    (tickers : List String) (fetched : List Fetch) :
    ((service.on source).firstScan rules tickers).run fetched =
      (((snapshotMask Frame.empty condition).map fun _ =>
          tickers.filter
            (source.passes service.settings.snapshotTimeframe condition)).mapError .failure,
        fetched ++ tickers.map fun ticker =>
          ⟨ticker, service.settings.snapshotTimeframe, Market.snapshotLimit⟩) := by
  have htable := congrArg (fun given : Frame × List Fetch =>
    ((screenSnapshot given.1 condition).mapError Stop.failure, given.2))
    (source.run_snapshot service.settings.snapshotTimeframe tickers fetched)
  rw [screenSnapshot_snapshot, Source.map_filter_latestRows] at htable
  rw [firstScan, hlatest]
  exact htable

theorem screened_eq_map {rules : Rules} {condition : String}
    (hlatest : rules.latest = some condition) (tickers : List String) :
    service.screened source rules tickers =
      (service.screened source rules []).map fun _ =>
        tickers.filter (source.passes service.settings.snapshotTimeframe condition) := by
  rw [screened, screened, service.run_firstScan source hlatest,
    service.run_firstScan source hlatest]
  cases snapshotMask Frame.empty condition <;> rfl

/-- What a scan says about a ticker does not depend on the answers for other tickers. -/
theorem filter_screened {rules : Rules} {condition : String}
    (hlatest : rules.latest = some condition) {other : Source} {ticker : String}
    (hsame : other.history
        ⟨ticker, service.settings.snapshotTimeframe, Market.snapshotLimit⟩ =
      source.history ⟨ticker, service.settings.snapshotTimeframe, Market.snapshotLimit⟩)
    (tickers : List String) :
    (service.screened other rules tickers).map (·.filter (· == ticker)) =
      (service.screened source rules tickers).map (·.filter (· == ticker)) := by
  have hnone : service.screened other rules [] = service.screened source rules [] := by
    rw [screened, screened, service.run_firstScan other hlatest,
      service.run_firstScan source hlatest]
    rfl
  have hkept : (tickers.filter
        (other.passes service.settings.snapshotTimeframe condition)).filter (· == ticker) =
      (tickers.filter
        (source.passes service.settings.snapshotTimeframe condition)).filter (· == ticker) := by
    rw [List.filter_filter, List.filter_filter]
    refine List.filter_congr fun one _ => ?_
    by_cases hone : one = ticker
    · rw [hone, Source.passes, Source.passes, hsame]
    · rw [beq_false_of_ne hone, Bool.false_and, Bool.false_and]
  rw [service.screened_eq_map other hlatest, service.screened_eq_map source hlatest tickers, hnone]
  cases service.screened source rules [] with
  | error stop => rfl
  | ok none => exact congrArg Except.ok hkept

/-- **The first scan decides each ticker on its own.**  Without a condition it gives the universe and
asks nothing.  With a condition it asks once for each position of the universe; it fails on every
universe with one failure, or it keeps from every universe, in its order, the tickers that have a
latest bar on which the condition is true.  What the source answers for other tickers makes no
difference to a ticker. -/
theorem firstScan_decides_each (rules : Rules) :
    (rules.latest = none → ∀ tickers fetched,
      ((service.on source).firstScan rules tickers).run fetched = (.ok tickers, fetched)) ∧
    ∀ condition, rules.latest = some condition →
      let timeframe := service.settings.snapshotTimeframe
      let scan := service.screened source rules
      (∀ tickers fetched, ((service.on source).firstScan rules tickers).run fetched =
        (scan tickers, fetched ++ tickers.map fun ticker =>
          ⟨ticker, timeframe, Market.snapshotLimit⟩)) ∧
      (∀ tickers others e, scan tickers = .error e ↔ scan others = .error e) ∧
      (∀ first second, scan (first ++ second) = do return (← scan first) ++ (← scan second)) ∧
      (∀ tickers, scan tickers =
        (scan []).map fun _ => tickers.filter (source.passes timeframe condition)) ∧
      (∀ ticker, source.passes timeframe condition ticker = true ↔ ∃ bars bar mask,
        source.history ⟨ticker, timeframe, Market.snapshotLimit⟩ = .ok bars ∧
        bars.getLast? = some bar ∧
        ((Session.start (Frame.ofBars [bar]) .empty).evaluateCondition condition).1 = .ok mask ∧
        mask.isTrueAt 0 = true) ∧
      ∀ other ticker, other.history ⟨ticker, timeframe, Market.snapshotLimit⟩ =
          source.history ⟨ticker, timeframe, Market.snapshotLimit⟩ →
        ∀ tickers, (service.screened other rules tickers).map (·.filter (· == ticker)) =
          (scan tickers).map (·.filter (· == ticker)) := by
  constructor
  · intro hlatest tickers fetched
    rw [firstScan, hlatest]
    rfl
  · intro condition hlatest timeframe scan
    have hscan : ∀ tickers, scan tickers =
        (scan []).map fun _ => tickers.filter (source.passes timeframe condition) :=
      service.screened_eq_map source hlatest
    refine ⟨?_, ?_, ?_, hscan, source.passes_iff timeframe condition, ?_⟩
    · intro tickers fetched
      show _ = (service.screened source rules tickers, _)
      rw [screened, service.run_firstScan source hlatest, service.run_firstScan source hlatest]
    · intro tickers others e
      rw [hscan tickers, hscan others]
      cases scan [] with
      | error stop => exact Iff.rfl
      | ok none => exact ⟨nofun, nofun⟩
    · intro first second
      rw [hscan (first ++ second), hscan first, hscan second, List.filter_append]
      cases scan [] with
      | error stop => rfl
      | ok none => rfl
    · intro other ticker hsame tickers
      exact service.filter_screened source hlatest hsame tickers

end Service

theorem firstScan_decides_each_mixedAnswers :
    let service := mixedService {}
    let rules : Rules := { latest := some "close > open" }
    let scan := service.screened mixedAnswers rules
    scan ["UP", "TORN", "UP", "DOWN"] = .ok ["UP", "UP"] ∧
      (∀ tickers others e, scan tickers = .error e ↔ scan others = .error e) ∧
      ∀ tickers, (service.screened risingAnswers rules tickers).map (·.filter (· == "UP")) =
        (scan tickers).map (·.filter (· == "UP")) := by
  intro service rules scan
  have hlatest : rules.latest = some "close > open" := rfl
  have hpassed : scan ["UP", "TORN", "UP", "DOWN"] = .ok ["UP", "UP"] := by decide +kernel
  obtain ⟨-, hfails, -, -, -, hother⟩ :=
    (service.firstScan_decides_each mixedAnswers rules).2 "close > open" hlatest
  exact ⟨hpassed, hfails, hother risingAnswers "UP" rfl⟩

end Screener
