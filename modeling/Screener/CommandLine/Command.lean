/-!
# Commands

What the program can be asked to do.  Each command has options; the program refuses a call that
lacks a required one.
-/

namespace Screener

/-- The options that have a value. -/
inductive Parameter where
  | config | strategy | tickers | output | timeframe
  deriving Repr, DecidableEq

namespace Parameter

/-- All options that have a value. -/
def all : List Parameter := [config, strategy, tickers, output, timeframe]

/-- The long name of an option. -/
def name : Parameter → String
  | config => "config"
  | strategy => "strategy"
  | tickers => "tickers"
  | output => "output"
  | timeframe => "timeframe"

/-- The letter of an option. -/
def letter? : Parameter → Option Char
  | config => some 'c'
  | strategy => some 's'
  | output => some 'o'
  | tickers | timeframe => none

/-- Whether the value of an option is a path, which is not empty. -/
def isPath : Parameter → Bool
  | config | strategy | output => true
  | tickers | timeframe => false

end Parameter

/-- The commands without their options. -/
inductive CommandName where
  | firstScan | secondScan | scan | validate | listTickers
  deriving Repr, DecidableEq

namespace CommandName

/-- All commands. -/
def all : List CommandName := [firstScan, secondScan, scan, validate, listTickers]

/-- How a command is called. -/
def name : CommandName → String
  | firstScan => "first-scan"
  | secondScan => "second-scan"
  | scan => "scan"
  | validate => "validate"
  | listTickers => "list-tickers"

/-- The command that a word calls. -/
def ofName? (word : String) : Option CommandName := all.find? fun command => command.name = word

/-- The options of a command. -/
def parameters : CommandName → List Parameter
  | firstScan | scan => [.config, .strategy, .tickers, .output]
  | secondScan => [.config, .strategy, .output]
  | validate => [.strategy, .config]
  | listTickers => [.config, .timeframe]

end CommandName

/-- A command with its options. -/
inductive Command where
  /-- Screens the tickers and stores the watchlist. -/
  | firstScan (config strategy : String) (tickers output : Option String)
  /-- Tests the stored watchlist. -/
  | secondScan (config strategy : String) (output : Option String)
  /-- Runs both scans one after the other. -/
  | scan (config strategy : String) (tickers output : Option String)
  /-- Checks a strategy, and a configuration if one is given. -/
  | validate (strategy : String) (config : Option String)
  /-- Lists the tickers that have data. -/
  | listTickers (config : String) (timeframe : Option String)
  deriving Repr, DecidableEq

namespace Command

/-- The command without its options. -/
def name : Command → CommandName
  | firstScan .. => .firstScan
  | secondScan .. => .secondScan
  | scan .. => .scan
  | validate .. => .validate
  | listTickers .. => .listTickers

/-- The value of an option. -/
def value? : Command → Parameter → Option String
  | firstScan config _ _ _, .config | secondScan config _ _, .config
  | scan config _ _ _, .config | listTickers config _, .config => some config
  | firstScan _ strategy _ _, .strategy | secondScan _ strategy _, .strategy
  | scan _ strategy _ _, .strategy | validate strategy _, .strategy => some strategy
  | firstScan _ _ tickers _, .tickers | scan _ _ tickers _, .tickers => tickers
  | firstScan _ _ _ output, .output | secondScan _ _ output, .output
  | scan _ _ _ output, .output => output
  | validate _ config, .config => config
  | listTickers _ timeframe, .timeframe => timeframe
  | _, _ => none

end Command

/-- The command with the given values, if none that is required is missing. -/
def CommandName.command? (name : CommandName) (value : Parameter → Option String) :
    Option Command := do
  match name with
  | .firstScan =>
    return .firstScan (← value .config) (← value .strategy) (value .tickers) (value .output)
  | .secondScan => return .secondScan (← value .config) (← value .strategy) (value .output)
  | .scan => return .scan (← value .config) (← value .strategy) (value .tickers) (value .output)
  | .validate => return .validate (← value .strategy) (value .config)
  | .listTickers => return .listTickers (← value .config) (value .timeframe)

/-- A command is made again from its own values. -/
theorem Command.command?_value? (command : Command) :
    command.name.command? command.value? = some command := by
  cases command <;> rfl

end Screener
