import Screener.Market
import Screener.Scan.Condition
import Screener.Scan.Report
import Screener.Watchlist.Basic

/-!
# Scans

A scan has two phases.  The first screens a universe of tickers on a snapshot and saves those that
pass as the watchlist of the strategy.  The second loads the watchlist and tests the history of each
of its tickers; one ticker that fails or crashes does not disturb the others.

Saves, loads and the tests of single tickers are tasks: they run beside their caller, and the system
gives each of them a name, which is told when one crashes.
-/

namespace Screener

/-- How much a scan asks for. -/
structure Settings where
  /-- Bars of history for each ticker. -/
  historyLimit : Nat := 200
  /-- Tickers that may be scanned at the same time. -/
  maxConcurrency : Nat := 8
  /-- The timeframe of the first scan. -/
  snapshotTimeframe : Timeframe := .standard
  deriving Repr, DecidableEq

namespace Settings

/-- The greatest number of permits to scan a ticker that can be given out. -/
def mostPermits : Nat := 2305843009213693951

/-- The number of permits to scan a ticker, at least one. -/
def permits (settings : Settings) : Nat := max settings.maxConcurrency 1

/-- Refuses more permits than can be given out. -/
def checkPermits (settings : Settings) : Attempt Unit :=
  if settings.permits ≤ mostPermits then .ok ()
  else .error (.crash (s!"a semaphore may not have more than MAX_PERMITS permits " ++
    s!"({mostPermits})"))

end Settings

/-! ## Tasks -/

/-- What tasks are called where no system gives them names; it stands for any name. -/
def anyTask : String := "N"

/-- Computations that can start tasks, which run beside their callers. -/
class Tasks (m : Type → Type) where
  /-- Starts a task and tells what the system calls it. -/
  start : m String

namespace Tasks

instance : Tasks Id where
  start := anyTask

/-- Tasks stay within reach of a computation that carries a further state. -/
instance (priority := low) {m : Type → Type} [Monad m] [Tasks m] {σ : Type} :
    Tasks (StateT σ m) where
  start := StateT.lift Tasks.start

end Tasks

/-- What tasks give that wait for a number of permits.  A free permit goes to the task that has
waited longest.  While there is none, the task that has held its permit longest is done and gives
it back.  If no task can go on, nothing more is done. -/
def underPermits {m : Type → Type} [Monad m] {α β : Type} (work : α → m β) :
    (free : Nat) → (holding waiting : List α) → m (List β)
  | free + 1, holding, next :: waiting => underPermits work free (holding ++ [next]) waiting
  | free, first :: holding, waiting => do
    let done ← work first
    return done :: (← underPermits work (free + 1) holding waiting)
  | _, [], _ => return []
termination_by _ holding waiting => 2 * waiting.length + holding.length

/-! ## Services -/

/-- A market, a place for watchlists, what formulas may call, and what tasks are called. -/
structure Service (m : Type → Type) [Pure m] where
  market : Market m
  keeper : Keeper m
  registry : Registry := .standard
  settings : Settings := {}
  /-- Starts a task and tells what the system calls it. -/
  startTask : m String := pure anyTask

/-- What becomes of a ticker with the given bars. -/
def judge (registry : Registry) (rule : HistoryRule) (bars : List (Bar Float)) : Outcome :=
  match bars.getLast? with
  | none => .skipped
  | some bar =>
    match matchesLatestBar (Frame.ofBars bars) registry rule with
    | .ok true => .qualified bar
    | .ok false => .rejected
    | .error failure => .failed failure.message

/-- What becomes of a ticker whose history a task has asked for. -/
def outcome (registry : Registry) (rule : HistoryRule) (task : String) :
    Attempt (List (Bar Float)) → Outcome
  | .ok bars => judge registry rule bars
  | .error (.failure failure) => .failed failure.message
  | .error (.crash message) => .failed (crashReason task message)

/-- What a task gives that runs beside its caller; if it crashes, the caller sees a failure of the
storage that tells what the task was for. -/
def settleTask {α : Type} (task purpose : String) : Attempt α → Attempt α
  | .error (.crash message) =>
    fail (.storage (purpose ++ " task failed: " ++ crashReason task message))
  | result => result

namespace Service

variable {m : Type → Type} [Monad m] (service : Service m)

/-- The tickers of a universe that pass the first condition; without one all of them pass, and
nothing is fetched. -/
def firstScan (rules : Rules) (tickers : List String) : m (Attempt (List String)) :=
  match rules.latest with
  | none => return .ok tickers
  | some condition => do
    let snapshot ← service.market.snapshot tickers service.settings.snapshotTimeframe
    return (screenSnapshot snapshot condition).mapError .failure

/-- Starts a task for every ticker of a list. -/
def startTasks (tickers : List String) : m (List (String × String)) :=
  tickers.mapM fun ticker => return (ticker, ← service.startTask)

/-- What becomes of a ticker in its task. -/
def scanned (rule : HistoryRule) : String × String → m (String × Outcome)
  | (ticker, task) => do
    let bars ← service.market.history ticker rule.timeframe service.settings.historyLimit
    return (ticker, outcome service.registry rule task bars)

/-- What becomes of every ticker of a watchlist, in its order.  Each has a task of its own, and no
task asks for a history without a permit. -/
def outcomes (rule : HistoryRule) (watchlist : List String) : m (List (String × Outcome)) := do
  let tasks ← service.startTasks watchlist
  underPermits (service.scanned rule) service.settings.permits [] tasks

/-- Tests the second condition on every ticker of a watchlist; without one the report is empty. -/
def secondScan (rules : Rules) (watchlist : List String) : m (Attempt Report) :=
  match rules.history with
  | none => return .ok {}
  | some rule =>
    match service.settings.checkPermits with
    | .error stop => return .error stop
    | .ok () => return .ok (.ofOutcomes (← service.outcomes rule watchlist))

/-- Screens a universe and saves what passes as the watchlist of the strategy. -/
def firstPhase (strategy : Strategy) (tickers : List String) : m (Attempt Watchlist) := do
  match ← service.firstScan strategy.rules tickers with
  | .error stop => return .error stop
  | .ok passed => do
    let task ← service.startTask
    return settleTask task "watchlist store" (← service.keeper.save strategy.id passed)

/-- Loads the watchlist of the strategy and scans it. -/
def secondPhase (strategy : Strategy) : m (Attempt Report) := do
  let task ← service.startTask
  match settleTask task "watchlist store" (← service.keeper.load strategy.id) with
  | .error stop => return .error stop
  | .ok none => return fail (.watchlistMissing strategy.id)
  | .ok (some list) =>
    let report ← service.secondScan strategy.rules list.tickers
    return report.map fun report => { report with version := some list.version }

/-- Both phases one after the other. -/
def fullScan (strategy : Strategy) (tickers : List String) :
    m (Attempt (Watchlist × Report)) := do
  match ← service.firstPhase strategy tickers with
  | .error stop => return .error stop
  | .ok list => return (← service.secondPhase strategy).map (list, ·)

end Service

end Screener
