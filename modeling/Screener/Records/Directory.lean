import Screener.File.Access
import Screener.File.Path
import Screener.Market
import Screener.Records.History

/-!
# Markets in directories

A directory of tables is a market.  Each ticker has a file for each timeframe, and the names of
ticker and timeframe make the name of the file.
-/

namespace Screener

namespace MarketDirectory

/-- What the name of a file of a timeframe ends with. -/
def ending (timeframe : Timeframe) : String := "_" ++ timeframe.name ++ ".csv"

/-- The name of the file of a ticker and a timeframe. -/
def fileName (ticker : String) (timeframe : Timeframe) : String := ticker ++ ending timeframe

/-- The ticker that a file of a timeframe is named for. -/
def tickerOf? (timeframe : Timeframe) (name : String) : Option String :=
  (((ending timeframe).toList.isSuffixOf? name.toList).filter (!·.isEmpty)).map String.ofList

/-- The tickers of a timeframe among the names in a directory, in ascending order. -/
def tickersOf (timeframe : Timeframe) (names : List String) : List String :=
  (names.filterMap (tickerOf? timeframe)).mergeSort fun a b => decide (a ≤ b)

/-- What a file that should hold the history of a ticker gives; if there is no such file, the
ticker has no bars. -/
def readHistory (ticker path : String) (limit : Nat) :
    Except SystemError String → Except Failure (List (Bar Float))
  | .ok text =>
    match History.read text with
    | .ok bars => .ok (History.latest limit bars)
    | .error e => .error (.dataSource ticker e.message)
  | .error .notFound => .ok []
  | .error e => .error (.dataSource ticker ("failed to read " ++ path ++ ": " ++ e.message))

/-- The tickers that the names in a directory give.  A name that is refused is no fault of the
directory, which has been opened before. -/
def listed (directory : String) (timeframe : Timeframe) :
    Except SystemError (List (Except SystemError String)) → Attempt (List String)
  | .ok names =>
    match names.mapM id with
    | .ok names => .ok (tickersOf timeframe names)
    | .error e => fail (.io e)
  | .error e =>
    fail (.dataSource "*" ("failed to read directory " ++ directory ++ ": " ++ e.message))

variable {m : Type → Type} [Monad m] [Files m]

/-- The market in a directory. -/
def market (directory : String) : Market m where
  history ticker timeframe limit := do
    let path := Path.join directory (fileName ticker timeframe)
    return (readHistory ticker path limit (← Files.readText path)).mapError .failure
  listing timeframe := return listed directory timeframe (← Files.names directory)

end MarketDirectory

end Screener
