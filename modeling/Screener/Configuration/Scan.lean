import Screener.Configuration.Basic
import Screener.Scan.Service
import Screener.Tickers

/-!
# Scan configurations

A scan configuration says where the data is, how much of it a scan asks for, which tickers are
scanned and where watchlists are kept.  `validate` checks all of it before anything is fetched.
-/

namespace Screener

/-- Where watchlists are kept: for one run of the program, or in a database, to which several
connections are kept open. -/
inductive Storage where
  | memory
  | database (address : String) (connections : Nat)
  deriving Repr, DecidableEq

namespace ScanConfiguration

/-- The names of the places where watchlists can be kept. -/
def storeNames : List String := ["memory", "sqlite"]

/-- Checks that a key has no value or a positive integer. -/
def checkPositive (file : KeyFile) (sectionName key : String) : Except Failure Unit :=
  match file.string? sectionName key with
  | none => .ok ()
  | some _ =>
    if file.integer sectionName key 0 < 1 then
      .error (.configInvalid sectionName key (key ++ " must be a positive integer"))
    else .ok ()

/-- Checks that a place for watchlists has a known name, if it is given. -/
def checkStore (file : KeyFile) : Except Failure Unit :=
  match file.string? "watchlist" "store" with
  | none => .ok ()
  | some store =>
    if Text.trimmed store ∈ storeNames then .ok ()
    else
      .error (.configInvalid "watchlist" "store"
        ("store must be one of " ++ ", ".intercalate storeNames))

/-- Checks a configuration. -/
def validate (file : KeyFile) : Except Failure Unit := do
  discard <| file.require "data" "path"
  checkPositive file "scan" "history_limit"
  checkPositive file "scan" "max_concurrency"
  discard <| file.timeframe "scan" "snapshot_timeframe"
  checkStore file

/-- How much a scan asks for; numbers below one count as one. -/
def settings (file : KeyFile) : Except Failure Settings := do
  let standard : Settings := {}
  let snapshotTimeframe ← file.timeframe "scan" "snapshot_timeframe"
  return {
    historyLimit := (max (file.integer "scan" "history_limit" standard.historyLimit) 1).toNat
    maxConcurrency := (max (file.integer "scan" "max_concurrency" standard.maxConcurrency) 1).toNat
    snapshotTimeframe }

/-- The directory with the data. -/
def dataPath (file : KeyFile) : Except Failure String := file.require "data" "path"

/-- The number of connections to a database; it is kept in 32 bits. -/
def connections (file : KeyFile) : Nat :=
  (max (file.integer "sqlite" "pool_size" 4) 1).toNat % 4294967296

/-- Where watchlists are kept. -/
def storage (file : KeyFile) : Except Failure Storage :=
  let store := Text.trimmed ((file.string? "watchlist" "store").getD "memory")
  if store = "memory" then .ok .memory
  else if store = "sqlite" then
    (file.require "sqlite" "path").map fun path => .database path (connections file)
  else .error (.configInvalid "watchlist" "store" ("unsupported store: " ++ store))

/-- The tickers that are asked for, in the call of the program or else in the configuration. -/
def tickers (asked : Option String) (file : KeyFile) : Except Failure (Option (List String)) :=
  let read (source list : String) : Except Failure (Option (List String)) :=
    match Tickers.read list with
    | .ok tickers => .ok (some tickers)
    | .error e => .error (.configInvalid "scan" source e.message)
  match asked, file.string? "scan" "tickers" with
  | some list, _ => read "--tickers" list
  | none, some list => read "tickers" list
  | none, none => .ok none

end ScanConfiguration

end Screener
