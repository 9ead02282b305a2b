import Screener.CommandLine.Command
import Screener.CommandLine.Console
import Screener.Configuration.File
import Screener.Configuration.Service
import Screener.Configuration.Strategy
import Screener.Records.File

/-!
# Running commands

Each command reads its files, does its work and reports.  Results go to the first output, one to a
line, and what there is to say about the run goes to the second.
-/

namespace Screener

namespace Run

variable {m : Type → Type} [Monad m] [Files m]

/-! ## What every scan starts with -/

/-- The strategy in a file, checked in all its parts. -/
def strategy (path : String) : Run m Strategy := do
  let file ← settleWith (KeyFile.load path)
  settle (StrategyFile.validate file)
  let strategy ← settle (StrategyFile.build file)
  settle (validateExpressions strategy.rules .standard)
  return strategy

/-- What a scan needs. -/
structure Preparation (m : Type → Type) [Monad m] where
  config : KeyFile
  strategy : Strategy
  service : Service (StateT Shelf m)

/-- Reads and checks the files of a scan. -/
def prepare [Tasks m] (config strategy : String) : Run m (Preparation m) := do
  let file ← settleWith (KeyFile.load config)
  settle (ScanConfiguration.validate file)
  let strategy ← Run.strategy strategy
  let service ← attempt (StateT.lift (ScanConfiguration.service file))
  return { config := file, strategy, service }

/-- The tickers of a first scan. -/
def tickers (preparation : Preparation m) (asked : Option String) : Run m (List String) := do
  let configured ← settle (ScanConfiguration.tickers asked preparation.config)
  attempt (preparation.service.market.resolve configured
    preparation.service.settings.snapshotTimeframe)

/-! ## Reporting -/

/-- Where a table is to be written, if anywhere: the call decides, or else the configuration. -/
def outputPath (asked : Option String) (config : KeyFile) : Option String :=
  asked.orElse fun _ => config.string? "output" "path"

/-- Writes a table where it is wanted and says so. -/
def writeTable (what : String) (asked : Option String) (config : KeyFile) (table : String) :
    Run m Unit := do
  if let some path := outputPath asked config then
    settleWith (Records.write path table)
    note (what ++ " written to: " ++ path)

/-- Reports the tickers of a watchlist. -/
def showWatchlist (list : Watchlist) : Run m Unit := do
  list.tickers.forM say
  note (toString list.tickers.length ++ " tickers on watchlist (strategy " ++
    toString list.strategy ++ ", version " ++ toString list.version ++ ")")

/-- A line for a ticker that qualifies; its numbers have four places. -/
def resultLine (ticker : String) (bar : Bar Float) : String :=
  "\t".intercalate
    [ticker, bar.timestamp.text, Decimal.fixed 4 bar.close, Decimal.fixed 4 bar.volume]

/-- Reports the outcome of a second scan. -/
def showReport (report : Report) : Run m Unit := do
  report.results.forM fun (ticker, bar) => say (resultLine ticker bar)
  note (toString report.results.length ++ " qualified, " ++ toString report.skipped.length ++
    " skipped, " ++ toString report.failures.length ++ " failed")
  report.failures.forM fun (ticker, reason) => note ("  " ++ ticker ++ ": " ++ reason)

/-! ## The scans -/

/-- Screens the tickers and stores the watchlist. -/
def firstScan [Tasks m] (config strategy : String) (asked output : Option String) : Run m Unit := do
  let preparation ← prepare config strategy
  let tickers ← tickers preparation asked
  let list ← attempt do
    let task ← preparation.service.startTask
    return settleTask task "first scan"
      (← preparation.service.firstPhase preparation.strategy tickers)
  showWatchlist list
  writeTable "Watchlist" output preparation.config list.table

/-- Tests the stored watchlist. -/
def secondScan [Tasks m] (config strategy : String) (output : Option String) : Run m Unit := do
  let preparation ← prepare config strategy
  let report ← attempt do
    let task ← preparation.service.startTask
    return settleTask task "second scan"
      (← preparation.service.secondPhase preparation.strategy)
  showReport report
  writeTable "Results" output preparation.config report.table

/-- Runs both scans one after the other. -/
def fullScan [Tasks m] (config strategy : String) (asked output : Option String) : Run m Unit := do
  let preparation ← prepare config strategy
  let tickers ← tickers preparation asked
  let (list, report) ← attempt (preparation.service.fullScan preparation.strategy tickers)
  note ("1st scan: " ++ toString list.tickers.length ++ " of " ++ toString tickers.length ++
    " tickers passed")
  showReport report
  writeTable "Results" output preparation.config report.table

/-! ## Checking and listing -/

/-- Shows a formula and its compiled form, or where it is faulty. -/
def showCompiled (label source : String) (compiled : Except CompileError Formula) :
    Run m Unit := do
  note ("\n" ++ label ++ ":")
  match compiled with
  | .ok formula =>
    note ("  Raw: " ++ source)
    note ("  RPN: " ++ formula.text)
  | .error e =>
    (Text.lines (e.inContext source).toList).forM fun line => note ("  " ++ String.ofList line)
    settle (.error (.expression label (.compile e)))

/-- Shows a declaration and makes it. -/
def showDeclaration (session : Session) (declaration : Declaration) : Run m Session := do
  showCompiled ("variable " ++ declaration.name) declaration.expression
    (session.compile declaration.expression)
  settle (session.declare declaration)

/-- Shows all formulas of a strategy. -/
def showRules (rules : Rules) : Run m Unit := do
  if let some condition := rules.latest then
    showCompiled "1st_scan.condition" condition ((Session.start .empty .empty).compile condition)
  if let some rule := rules.history then
    let session ← rule.declarations.foldlM showDeclaration (Session.start .empty .standard)
    showCompiled "2nd_scan.condition" rule.condition (session.compile rule.condition)
    note ("  Timeframe: " ++ rule.timeframe.name)

/-- Checks a configuration. -/
def validateConfig (path : String) : Run m Unit := do
  note ("Validating config: " ++ path)
  let file ← settleWith (KeyFile.load path)
  settle (ScanConfiguration.validate file)

/-- Checks a strategy and shows its formulas. -/
def validateStrategy (path : String) : Run m Unit := do
  note ("Validating strategy: " ++ path)
  let file ← settleWith (KeyFile.load path)
  settle (StrategyFile.validate file)
  let strategy ← settle (StrategyFile.build file)
  showRules strategy.rules
  settle (validateExpressions strategy.rules .standard)
  note "\nStrategy configuration is valid."

/-- Checks a strategy, and before it a configuration if one is given. -/
def validate (strategy : String) (config : Option String) : Run m Unit := do
  if let some path := config then validateConfig path
  validateStrategy strategy

/-- The timeframe that is asked for, or else that of the configuration. -/
def listedTimeframe (asked : Option String) (config : KeyFile) : Except Failure Timeframe :=
  match asked with
  | some value => readTimeframe "cli" "timeframe" value
  | none => (ScanConfiguration.settings config).map Settings.snapshotTimeframe

/-- Lists the tickers that have data. -/
def listTickers (config : String) (asked : Option String) : Run m Unit := do
  let file ← settleWith (KeyFile.load config)
  let timeframe ← settle (listedTimeframe asked file)
  let directory ← settle (ScanConfiguration.dataPath file)
  let tickers ← attempt (StateT.lift ((MarketDirectory.market directory).listing timeframe))
  if tickers.isEmpty then note ("No tickers found for timeframe " ++ timeframe.name)
  else
    tickers.forM say
    note (toString tickers.length ++ " tickers found")

/-! ## Commands -/

/-- Does what a command asks for. -/
def command [Tasks m] : Command → Run m Unit
  | .firstScan config strategy tickers output => firstScan config strategy tickers output
  | .secondScan config strategy output => secondScan config strategy output
  | .scan config strategy tickers output => fullScan config strategy tickers output
  | .validate strategy config => validate strategy config
  | .listTickers config timeframe => listTickers config timeframe

end Run

/-- Runs a command with an empty shelf and tells how it ended: the exit status, or the message of a
crash, if it had one. -/
def Command.run {m : Type → Type} [Monad m] [Files m] [Tasks m] (command : Command) :
    m (Except (Option String) Nat × Console) := do
  let ((result, console), _) ← ((Run.command command).run.run {}).run Shelf.empty
  match result with
  | .ok () => return (.ok 0, console)
  | .error (.failure failure) =>
    return (.ok failure.exitStatus,
      { console with stderr := console.stderr ++ "error: " ++ failure.message ++ "\n" })
  | .error (.crash message) => return (.error message, console)

end Screener
