import Screener.Proofs.Scan.Permits

/-!
# Services with a place for watchlists

The scans of a service do not look at the place where it keeps its watchlists, so a service can be
described apart from it: `Service.keeping` puts a keeper with a state of its own into a service, and
both scans do the same as before and leave that state alone.
-/

namespace Screener

variable {m : Type → Type} [Monad m] [LawfulMonad m] {τ : Type}

/-- What leaves a state alone in every position leaves it alone over a list. -/
theorem run_mapM_of_run_eq {α β : Type} {f : α → m β} {f' : α → StateT τ m β}
    (hf : ∀ a store, (f' a).run store = (fun b => (b, store)) <$> f a) (as : List α) (store : τ) :
    (as.mapM f').run store = (fun bs => (bs, store)) <$> as.mapM f := by
  induction as with
  | nil => simp
  | cons a rest ih => simp [List.mapM_cons, hf, ih]

/-- What a market answers does not depend on the place for watchlists. -/
theorem Market.run_snapshot_lift (market : Market m) (tickers : List String)
    (timeframe : Timeframe) (store : τ) :
    ((market.lift : Market (StateT τ m)).snapshot tickers timeframe).run store =
      (fun frame => (frame, store)) <$> market.snapshot tickers timeframe := by
  have hrows : (tickers.mapM fun ticker => (do
        return latestRow ticker (← market.lift.history ticker timeframe snapshotLimit) :
          StateT τ m (Option (String × Bar Float)))).run store =
      (fun rows => (rows, store)) <$> tickers.mapM fun ticker => do
        return latestRow ticker (← market.history ticker timeframe snapshotLimit) :=
    run_mapM_of_run_eq (fun ticker store => by simp [lift]) tickers store
  rw [snapshot, snapshot, StateT.run_bind, hrows]
  simp

namespace Service

/-- A service with another place for watchlists, which has a state. -/
def keeping (service : Service m) (keeper : Keeper (StateT τ m)) : Service (StateT τ m) where
  market := service.market.lift
  keeper := keeper
  registry := service.registry
  settings := service.settings
  startTask := StateT.lift service.startTask

variable (service : Service m) (keeper : Keeper (StateT τ m)) (store : τ)

theorem run_firstScan_keeping (rules : Rules) (tickers : List String) :
    ((service.keeping keeper).firstScan rules tickers).run store =
      (fun passed => (passed, store)) <$> service.firstScan rules tickers := by
  rw [firstScan, firstScan]
  cases rules.latest with
  | none => simp
  | some condition => simp [keeping, Market.run_snapshot_lift]

theorem run_startTask_keeping :
    (service.keeping keeper).startTask.run store =
      (fun task => (task, store)) <$> service.startTask := by
  simp [keeping]

theorem run_outcomes_keeping (rule : HistoryRule) (watchlist : List String) :
    ((service.keeping keeper).outcomes rule watchlist).run store =
      (fun outcomes => (outcomes, store)) <$> service.outcomes rule watchlist := by
  have hstart : ((service.keeping keeper).startTasks watchlist).run store =
      (fun tasks => (tasks, store)) <$> service.startTasks watchlist :=
    run_mapM_of_run_eq (fun ticker store => by simp [run_startTask_keeping]) watchlist store
  have hscan : ∀ tasks : List (String × String),
      (tasks.mapM ((service.keeping keeper).scanned rule)).run store =
        (fun outcomes => (outcomes, store)) <$> tasks.mapM (service.scanned rule) := fun tasks =>
    run_mapM_of_run_eq (fun task store => by simp [scanned, keeping, Market.lift]) tasks store
  rw [outcomes_eq_mapM, outcomes_eq_mapM, StateT.run_bind, hstart]
  simp [hscan]

theorem run_secondScan_keeping (rules : Rules) (watchlist : List String) :
    ((service.keeping keeper).secondScan rules watchlist).run store =
      (fun report => (report, store)) <$> service.secondScan rules watchlist := by
  have hsettings : (service.keeping keeper).settings = service.settings := rfl
  rw [secondScan, secondScan, hsettings]
  cases rules.history with
  | none => simp
  | some rule =>
      cases service.settings.checkPermits with
      | error stop => simp
      | ok permits => simp [run_outcomes_keeping]

/-- What the second phase gives if this is the latest watchlist of the strategy, once it has been
looked up, which is a task. -/
def reportOn (strategy : Strategy) (list? : Option Watchlist) : m (Attempt Report) := do
  let _ ← service.startTask
  match list? with
  | none => return fail (.watchlistMissing strategy.id)
  | some list =>
    let report ← service.secondScan strategy.rules list.tickers
    return report.map fun report => { report with version := some list.version }

end Service

end Screener
