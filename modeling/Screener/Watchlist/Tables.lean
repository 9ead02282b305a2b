import Screener.Watchlist.Basic

/-!
# Watchlists in tables

A database keeps watchlists in two tables.  The first has a row for each strategy with the version
of its watchlist, the second a row for each ticker with the strategy and the position in the list,
which together identify the row.  A save changes both tables in one transaction: it succeeds as a
whole, or the tables stay as they were.
-/

namespace Screener

/-- A row of the first table; the strategy identifies it. -/
structure VersionRow where
  strategy : Int
  version : Nat
  deriving Repr, DecidableEq

/-- A row of the second table; strategy and position identify it. -/
structure TickerRow where
  strategy : Int
  position : Nat
  ticker : String
  deriving Repr, DecidableEq

/-- The two tables. -/
structure Tables where
  versions : List VersionRow := []
  tickers : List TickerRow := []
  deriving Repr, DecidableEq

namespace Tables

/-- Tables without rows. -/
def empty : Tables := {}

/-- The version of a strategy's watchlist. -/
def version? (tables : Tables) (strategy : Int) : Option Nat :=
  (tables.versions.find? fun row => row.strategy = strategy).map VersionRow.version

/-- Puts a row of the first table in the place of the one it replaces. -/
def putVersion (tables : Tables) (row : VersionRow) : Tables :=
  { tables with
    versions := row :: tables.versions.filter fun other => other.strategy != row.strategy }

/-- Deletes the tickers of a strategy. -/
def deleteTickers (tables : Tables) (strategy : Int) : Tables :=
  { tables with tickers := tables.tickers.filter fun row => row.strategy != strategy }

/-- Adds a row to the second table, unless there is one for its strategy and position. -/
def insertTicker (tables : Tables) (row : TickerRow) : Except Failure Tables :=
  if tables.tickers.any fun other =>
      other.strategy = row.strategy && other.position = row.position then
    .error (.storage <| "UNIQUE constraint failed: watchlist_tickers.strategy_id, " ++
      "watchlist_tickers.position")
  else .ok { tables with tickers := tables.tickers ++ [row] }

/-- Adds the tickers of a strategy from a position on. -/
def insertTickers (tables : Tables) (strategy : Int) (position : Nat) :
    List String → Except Failure Tables
  | [] => .ok tables
  | ticker :: rest => do
    let tables ← tables.insertTicker ⟨strategy, position, ticker⟩
    tables.insertTickers strategy (position + 1) rest

/-- The tickers of a strategy in the order of their positions. -/
def tickersOf (tables : Tables) (strategy : Int) : List String :=
  ((tables.tickers.filter fun row => row.strategy = strategy).mergeSort fun a b =>
    decide (a.position ≤ b.position)).map TickerRow.ticker

/-- Saves the tickers of a strategy. -/
def save (tables : Tables) (strategy : Int) (tickers : List String) :
    Except Failure (Watchlist × Tables) := do
  let version := match tables.version? strategy with
    | some version => version + 1
    | none => 1
  let tables := (tables.putVersion ⟨strategy, version⟩).deleteTickers strategy
  let tables ← tables.insertTickers strategy 0 tickers
  return (⟨strategy, tickers, version⟩, tables)

/-- The latest watchlist of a strategy. -/
def load (tables : Tables) (strategy : Int) : Option Watchlist :=
  (tables.version? strategy).map fun version => ⟨strategy, tables.tickersOf strategy, version⟩

/-- Keeps watchlists in tables that are part of the state. -/
def keeper {m : Type → Type} [Monad m] : Keeper (StateT Tables m) where
  save strategy tickers := modifyGet fun tables =>
    match tables.save strategy tickers with
    | .ok (list, tables) => (.ok list, tables)
    | .error failure => (fail failure, tables)
  load strategy := return .ok ((← get).load strategy)

end Tables

end Screener
