import Screener.Proofs.Formula.Results
import Screener.Proofs.Scan.Account
import Screener.Proofs.Watchlist.Tables

/-!
# The handoff between the phases

A service whose keeper keeps journals answers, at every moment of a run, as the record of its
saves says: a load gives the latest list of a strategy, the second phase reports on that list, a
phase whose condition fails leaves everything as it was, and a step concerns no strategy but its
own (`Service.HandsOver`).  As lists are only added to the record, a version of a strategy means
one list throughout the run (`Service.HandsOverThroughout`).
-/

namespace Screener

namespace Service

variable {σ : Type} {service : Service (StateM σ)}

/-! ## Which list a version means -/

/-- Every list that a reply shows, or that a report is about, is the one that `lists` has for the
strategy and the version.  The world is the one before the step. -/
def Tells (service : Service (StateM σ)) (lists : Int → Nat → List String) (world : σ) :
    Step → Reply → Prop
  | .secondPhase strategy, .reported (.ok report) =>
    ∃ version, report.version = some version ∧
      ((service.reportOn strategy (some ⟨strategy.id, lists strategy.id version, version⟩)).run
        world).1 = .ok report
  | .fullScan strategy tickers, .scanned (.ok (list, report)) =>
    list = ⟨strategy.id, lists strategy.id list.version, list.version⟩ ∧
      report.version = some list.version ∧
      ((service.reportOn strategy (some list)).run
        (service.worldAtSave world strategy tickers)).1 = .ok report
  | step, .saved (.ok list) | step, .loaded (.ok (some list)) =>
    list = ⟨step.strategy, lists step.strategy list.version, list.version⟩
  | _, _ => True

/-- A report on a watchlist is what the second scan gives once the watchlist has been looked up. -/
theorem fst_run_reportOn_some (service : Service (StateM σ)) (strategy : Strategy)
    (list : Watchlist) (world : σ) :
    ((service.reportOn strategy (some list)).run world).1 =
      ((service.secondScan strategy.rules list.tickers).run
        (service.startTask.run world).2).1.map
          fun report => { report with version := some list.version } := rfl

/-- A report about a watchlist shows its version, and there is none without a watchlist. -/
theorem exists_list_of_reportOn {strategy : Strategy} {list? : Option Watchlist} {world : σ}
    {report : Report}
    (hreport : ((service.reportOn strategy list?).run world).1 = .ok report) :
    ∃ list, list? = some list ∧ report.version = some list.version := by
  cases list? with
  | none => cases hreport
  | some list =>
      rw [fst_run_reportOn_some] at hreport
      obtain ⟨scanned, -, rfl⟩ := map_eq_ok hreport
      exact ⟨list, rfl, rfl⟩

/-- After a first phase that succeeds, its list is the latest one, and nothing has been done to the
world but the first scan and the start of the save. -/
theorem accountOfFirst_of_ok {journal later : Journal} {world after : σ} {strategy : Strategy}
    {tickers : List String} {list : Watchlist}
    (hfirst : service.accountOfFirst journal world strategy tickers = (.ok list, later, after)) :
    later.latest strategy.id = some list ∧
      after = service.worldAtSave world strategy tickers := by
  cases hscan : ((service.firstScan strategy.rules tickers).run world).1 with
  | error stop =>
      rw [accountOfFirst_error hscan] at hfirst
      cases hfirst
  | ok passed =>
      rw [accountOfFirst_ok hscan] at hfirst
      cases hfirst
      exact ⟨journal.latest_record_self strategy.id passed, rfl⟩

theorem tells_account {journal later : Journal} {world : σ} {step : Step}
    (hlater : ∀ strategy, (service.account journal world step).2.1.listsOf strategy <+:
      later.listsOf strategy) :
    service.Tells later.listAt world step (service.account journal world step).1 := by
  -- a reply that is no failure shows the latest list after the step, which `later` still has
  cases step with
  | firstPhase strategy tickers =>
      rcases hfirst : service.accountOfFirst journal world strategy tickers with
        ⟨stop | list, journal', world'⟩
      · simp [account, hfirst, Tells]
      · simp only [account, hfirst] at hlater ⊢
        exact Journal.eq_listAt_of_latest (hlater strategy.id) (accountOfFirst_of_ok hfirst).1
  | secondPhase strategy =>
      rcases hrun : (service.reportOn strategy (journal.latest strategy.id)).run world with
        ⟨stop | report, after⟩
      · simp [account, accountOfSecond, hrun, Tells]
      · have hreport := congrArg Prod.fst hrun
        obtain ⟨list, hlatest, hversion⟩ := exists_list_of_reportOn hreport
        have hlist := Journal.eq_listAt_of_latest (hlater strategy.id) hlatest
        rw [hlatest, hlist] at hreport
        simp only [account, accountOfSecond, hrun]
        exact ⟨list.version, hversion, hreport⟩
  | fullScan strategy tickers =>
      rcases hfirst : service.accountOfFirst journal world strategy tickers with
        ⟨stop | list, journal', world'⟩
      · simp [account, accountOfFull, hfirst, Tells]
      · obtain ⟨hlatest, rfl⟩ := accountOfFirst_of_ok hfirst
        rcases hrun : (service.reportOn strategy (journal'.latest strategy.id)).run
            (service.worldAtSave world strategy tickers) with ⟨stop | report, after⟩
        · simp [account, accountOfFull, accountOfSecond, hfirst, hrun, Except.map, Tells]
        · have hreport := congrArg Prod.fst hrun
          rw [hlatest] at hreport
          obtain ⟨_, hsome, hversion⟩ := exists_list_of_reportOn hreport
          cases hsome
          simp only [account, accountOfFull, accountOfSecond, hfirst, hrun] at hlater ⊢
          exact ⟨Journal.eq_listAt_of_latest (hlater strategy.id) hlatest, hversion, hreport⟩
  | save strategy tickers =>
      have hlatest := journal.latest_record_self strategy tickers
      exact Journal.eq_listAt_of_latest (hlater strategy) hlatest
  | load strategy =>
      cases hlatest : journal.latest strategy with
      | none => simp [account, Tells, hlatest]
      | some list =>
          simp only [account, hlatest]
          exact Journal.eq_listAt_of_latest (hlater strategy) hlatest

/-- The second scan does not fail; it only crashes if it cannot give out its permits. -/
theorem secondScan_ne_fail (service : Service (StateM σ)) (rules : Rules)
    (watchlist : List String) (world : σ) (failure : Failure) :
    ((service.secondScan rules watchlist).run world).1 ≠ fail failure := by
  unfold secondScan
  cases rules.history with
  | none => exact fun hfail => by cases hfail
  | some rule =>
      unfold Settings.checkPermits
      by_cases hpermits : service.settings.permits ≤ Settings.mostPermits
      · simp only [if_pos hpermits]
        exact fun hfail => by cases hfail
      · simp only [if_neg hpermits]
        exact fun hfail => by cases hfail

theorem reportOn_eq_missing_iff (service : Service (StateM σ)) (strategy : Strategy)
    (list? : Option Watchlist) (world : σ) :
    ((service.reportOn strategy list?).run world).1 = fail (.watchlistMissing strategy.id) ↔
      list? = none := by
  cases list? with
  | none => exact iff_of_true rfl rfl
  | some list =>
      refine iff_of_false (fun hmissing => ?_) nofun
      rw [fst_run_reportOn_some] at hmissing
      have hne := service.secondScan_ne_fail strategy.rules list.tickers
        (service.startTask.run world).2 (.watchlistMissing strategy.id)
      cases hfound : ((service.secondScan strategy.rules list.tickers).run
          (service.startTask.run world).2).1 with
      | error stop =>
          rw [hfound] at hmissing hne
          cases hmissing
          exact hne rfl
      | ok report =>
          rw [hfound] at hmissing
          cases hmissing

/-! ## Runs -/

variable {τ : Type} (service : Service (StateM σ)) (keeper : Keeper (StateT τ (StateM σ)))

/-- What a load of a strategy's watchlist gives at a moment. -/
def entry (moment : Moment τ σ) (strategy : Int) : Reply :=
  (service.proceed keeper moment (.load strategy)).1

/-- What a service hands over between its phases at a moment.  The journal has the saves that have
succeeded until then. -/
structure HandsOver (moment : Moment τ σ) : Prop where
  /-- A load gives the list of the last save, with the number of saves as version. -/
  entry_eq (strategy : Int) :
    service.entry keeper moment strategy = .loaded (.ok (moment.journal.latest strategy))
  /-- A load gives nothing as long as nothing has been saved, and only then. -/
  entry_eq_none_iff (strategy : Int) :
    service.entry keeper moment strategy = .loaded (.ok none) ↔
      moment.journal.listsOf strategy = []
  /-- A save succeeds. -/
  save (strategy : Int) (tickers : List String) :
    (service.proceed keeper moment (.save strategy tickers)).1 =
        .saved (.ok (moment.journal.next strategy tickers)) ∧
      (service.proceed keeper moment (.save strategy tickers)).2.journal =
        moment.journal.record strategy tickers
  /-- A first phase saves the tickers that pass. -/
  firstPhase {strategy : Strategy} {tickers passed : List String}
    (hscan : ((service.firstScan strategy.rules tickers).run moment.world).1 = .ok passed) :
    (service.proceed keeper moment (.firstPhase strategy tickers)).1 =
        .saved (.ok (moment.journal.next strategy.id passed)) ∧
      (service.proceed keeper moment (.firstPhase strategy tickers)).2.journal =
        moment.journal.record strategy.id passed
  /-- A first phase whose condition fails changes nothing. -/
  firstPhase_error {strategy : Strategy} {tickers : List String} {stop : Stop}
    (hscan : ((service.firstScan strategy.rules tickers).run moment.world).1 = .error stop) :
    (service.proceed keeper moment (.firstPhase strategy tickers)).1 = .saved (.error stop) ∧
      ∀ other, service.entry keeper (service.proceed keeper moment
        (.firstPhase strategy tickers)).2 other = service.entry keeper moment other
  /-- A full scan saves the tickers that pass and reports on them. -/
  fullScan {strategy : Strategy} {tickers passed : List String}
    (hscan : ((service.firstScan strategy.rules tickers).run moment.world).1 = .ok passed) :
    (service.proceed keeper moment (.fullScan strategy tickers)).1 =
        .scanned (((service.reportOn strategy (some (moment.journal.next strategy.id passed))).run
          (service.worldAtSave moment.world strategy tickers)).1.map
            (moment.journal.next strategy.id passed, ·)) ∧
      (service.proceed keeper moment (.fullScan strategy tickers)).2.journal =
        moment.journal.record strategy.id passed
  /-- A full scan whose first condition fails changes nothing. -/
  fullScan_error {strategy : Strategy} {tickers : List String} {stop : Stop}
    (hscan : ((service.firstScan strategy.rules tickers).run moment.world).1 = .error stop) :
    (service.proceed keeper moment (.fullScan strategy tickers)).1 = .scanned (.error stop) ∧
      ∀ other, service.entry keeper (service.proceed keeper moment
        (.fullScan strategy tickers)).2 other = service.entry keeper moment other
  /-- A load changes nothing. -/
  load (strategy other : Int) :
    service.entry keeper (service.proceed keeper moment (.load strategy)).2 other =
      service.entry keeper moment other
  /-- A second phase scans the latest list, shows its version and changes nothing. -/
  secondPhase (strategy : Strategy) :
    (service.proceed keeper moment (.secondPhase strategy)).1 = .reported
        ((service.reportOn strategy (moment.journal.latest strategy.id)).run moment.world).1 ∧
      ∀ other, service.entry keeper (service.proceed keeper moment
        (.secondPhase strategy)).2 other = service.entry keeper moment other
  /-- A second phase misses a watchlist as long as nothing has been saved, and only then. -/
  secondPhase_eq_missing_iff (strategy : Strategy) :
    (service.proceed keeper moment (.secondPhase strategy)).1 =
        .reported (fail (.watchlistMissing strategy.id)) ↔
      moment.journal.listsOf strategy.id = []
  /-- A step concerns no strategy but its own. -/
  entry_of_ne (step : Step) {other : Int} (hother : other ≠ step.strategy) :
    service.entry keeper (service.proceed keeper moment step).2 other =
      service.entry keeper moment other

/-- What a service hands over between its phases in the course of a run. -/
structure HandsOverThroughout (start : Moment τ σ) (steps : List Step) : Prop where
  /-- The record of the saves is only beside the run. -/
  unrecorded : ((steps.mapM (service.keeping keeper).perform).run start.store).run start.world =
    ((service.replies keeper start steps, (service.reached keeper start steps).store),
      (service.reached keeper start steps).world)
  /-- At every moment the handoff is as it should be. -/
  always {before : List Step} (hbefore : before <+: steps) :
    service.HandsOver keeper (service.reached keeper start before)
  /-- A version of a strategy means one list, whenever it is seen. -/
  oneList : ∃ lists : Int → Nat → List String, ∀ before step, before ++ [step] <+: steps →
    service.Tells lists (service.reached keeper start before).world step
      (service.proceed keeper (service.reached keeper start before) step).1

variable {service keeper} {holds : Journal → τ → Prop} {moment : Moment τ σ}

theorem exists_proceed_eq (service : Service (StateM σ)) (hkeeps : keeper.Keeps holds)
    (hholds : holds moment.journal moment.store) (step : Step) :
    ∃ store, holds (service.account moment.journal moment.world step).2.1 store ∧
      service.proceed keeper moment step =
        ((service.account moment.journal moment.world step).1,
          ⟨(service.account moment.journal moment.world step).2.1, store,
            (service.account moment.journal moment.world step).2.2⟩) :=
  follows_perform hkeeps hholds step

theorem reply_proceed (hkeeps : keeper.Keeps holds) (hholds : holds moment.journal moment.store)
    (step : Step) :
    (service.proceed keeper moment step).1 =
      (service.account moment.journal moment.world step).1 := by
  obtain ⟨store, -, hproceed⟩ := service.exists_proceed_eq hkeeps hholds step
  rw [hproceed]

theorem journal_proceed (hkeeps : keeper.Keeps holds) (hholds : holds moment.journal moment.store)
    (step : Step) :
    (service.proceed keeper moment step).2.journal =
      (service.account moment.journal moment.world step).2.1 := by
  obtain ⟨store, -, hproceed⟩ := service.exists_proceed_eq hkeeps hholds step
  rw [hproceed]

/-- A step leads to a moment at which the place for watchlists stands for the journal again. -/
theorem holds_proceed (hkeeps : keeper.Keeps holds) (hholds : holds moment.journal moment.store)
    (step : Step) :
    holds (service.proceed keeper moment step).2.journal
      (service.proceed keeper moment step).2.store := by
  obtain ⟨store, hstore, hproceed⟩ := service.exists_proceed_eq hkeeps hholds step
  rw [hproceed]
  exact hstore

theorem entry_eq_latest (hkeeps : keeper.Keeps holds) (hholds : holds moment.journal moment.store)
    (strategy : Int) :
    service.entry keeper moment strategy = .loaded (.ok (moment.journal.latest strategy)) :=
  reply_proceed hkeeps hholds (.load strategy)

theorem entry_proceed_eq (hkeeps : keeper.Keeps holds)
    (hholds : holds moment.journal moment.store) {step : Step} {other : Int}
    (hlatest : (service.account moment.journal moment.world step).2.1.latest other =
      moment.journal.latest other) :
    service.entry keeper (service.proceed keeper moment step).2 other =
      service.entry keeper moment other := by
  rw [entry_eq_latest hkeeps (holds_proceed hkeeps hholds step), journal_proceed hkeeps hholds,
    hlatest, entry_eq_latest hkeeps hholds]

/-- A service whose keeper keeps journals hands over at every moment at which the place for
watchlists stands for the journal. -/
theorem handsOver (hkeeps : keeper.Keeps holds) (hholds : holds moment.journal moment.store) :
    service.HandsOver keeper moment where
  entry_eq strategy := entry_eq_latest hkeeps hholds strategy
  entry_eq_none_iff strategy := by
    rw [entry_eq_latest hkeeps hholds, ← Journal.latest_eq_none_iff]
    simp
  save strategy tickers :=
    ⟨reply_proceed hkeeps hholds (.save strategy tickers),
      journal_proceed hkeeps hholds (.save strategy tickers)⟩
  firstPhase {strategy tickers passed} hscan := by
    rw [reply_proceed hkeeps hholds, journal_proceed hkeeps hholds, account,
      accountOfFirst_ok hscan]
    exact ⟨rfl, rfl⟩
  firstPhase_error {strategy tickers stop} hscan := by
    refine ⟨?_, fun other => entry_proceed_eq hkeeps hholds ?_⟩
    · rw [reply_proceed hkeeps hholds, account, accountOfFirst_error hscan]
      rfl
    · rw [account, accountOfFirst_error hscan]
      rfl
  fullScan {strategy tickers passed} hscan := by
    rw [reply_proceed hkeeps hholds, journal_proceed hkeeps hholds, account, accountOfFull,
      accountOfFirst_ok hscan]
    simp only [accountOfSecond, Journal.latest_record_self]
    exact ⟨rfl, rfl⟩
  fullScan_error {strategy tickers stop} hscan := by
    refine ⟨?_, fun other => entry_proceed_eq hkeeps hholds ?_⟩
    · rw [reply_proceed hkeeps hholds, account, accountOfFull, accountOfFirst_error hscan]
      rfl
    · rw [account, accountOfFull, accountOfFirst_error hscan]
      rfl
  load strategy other := entry_proceed_eq hkeeps hholds rfl
  secondPhase strategy :=
    ⟨reply_proceed hkeeps hholds (.secondPhase strategy),
      fun _ => entry_proceed_eq hkeeps hholds rfl⟩
  secondPhase_eq_missing_iff strategy := by
    rw [reply_proceed hkeeps hholds, ← Journal.latest_eq_none_iff,
      ← service.reportOn_eq_missing_iff strategy _ moment.world]
    exact ⟨fun heq => Reply.reported.inj heq, fun heq => congrArg Reply.reported heq⟩
  entry_of_ne step other hother := entry_proceed_eq hkeeps hholds (latest_account_of_ne hother)

theorem reached_append (start : Moment τ σ) (before after : List Step) :
    service.reached keeper start (before ++ after) =
      service.reached keeper (service.reached keeper start before) after :=
  List.foldl_append

theorem holds_reached (service : Service (StateM σ)) (hkeeps : keeper.Keeps holds)
    (hholds : holds moment.journal moment.store) (steps : List Step) :
    holds (service.reached keeper moment steps).journal
      (service.reached keeper moment steps).store := by
  induction steps generalizing moment with
  | nil => exact hholds
  | cons step rest ih => exact ih (holds_proceed hkeeps hholds step)

/-- No list of the journal is lost or changed in the course of a run. -/
theorem listsOf_prefix_reached (hkeeps : keeper.Keeps holds)
    (hholds : holds moment.journal moment.store) (steps : List Step) (strategy : Int) :
    moment.journal.listsOf strategy <+:
      (service.reached keeper moment steps).journal.listsOf strategy := by
  induction steps generalizing moment with
  | nil => exact List.prefix_rfl
  | cons step rest ih =>
      have hstep : moment.journal.listsOf strategy <+:
          (service.proceed keeper moment step).2.journal.listsOf strategy := by
        rw [journal_proceed hkeeps hholds]
        exact service.listsOf_prefix_account moment.journal moment.world step strategy
      exact hstep.trans (ih (holds_proceed hkeeps hholds step))

theorem handsOverThroughout (hkeeps : keeper.Keeps holds) {start : Moment τ σ}
    (hholds : holds start.journal start.store) (steps : List Step) :
    service.HandsOverThroughout keeper start steps where
  unrecorded := run_mapM_perform start steps
  always {before} _ := handsOver hkeeps (service.holds_reached hkeeps hholds before)
  oneList := by
    -- the record at the end still has every list that a step on the way has seen
    refine ⟨(service.reached keeper start steps).journal.listAt, fun before step hbefore => ?_⟩
    obtain ⟨after, rfl⟩ := hbefore
    have hreached := service.holds_reached hkeeps hholds before
    rw [reply_proceed hkeeps hreached]
    refine tells_account fun strategy => ?_
    rw [← journal_proceed hkeeps hreached, reached_append, reached_append]
    exact listsOf_prefix_reached hkeeps (holds_proceed hkeeps hreached step) after strategy

/-- **Handoff.**  Whatever a service is asked to do, from an empty place for watchlists on, be it
the shelf or the tables: the lists that have been saved are handed over as they are, and nothing
else is. -/
theorem shelf_and_tables_handOver (service : Service (StateM σ)) (world : σ) (steps : List Step) :
    service.HandsOverThroughout Shelf.keeper ⟨.empty, Shelf.empty, world⟩ steps ∧
      service.HandsOverThroughout Tables.keeper ⟨.empty, Tables.empty, world⟩ steps :=
  ⟨handsOverThroughout Shelf.keeper_keeps Shelf.holds_empty steps,
    handsOverThroughout Tables.keeper_keeps Tables.holds_empty steps⟩

end Service

end Screener
