import Screener.Database.Catalogue
import Screener.Watchlist.Tables

/-!
# How tables of watchlists lie in a database

The first table is a tree of rows that are found by the strategy; the second one has an index by
strategy and position.  A database may hold anything else besides, and may keep its texts in any
encoding.
-/

namespace Screener.Tables

open Database

/-! ## Definitions -/

/-- The name of the first table. -/
def versionsName : String := "watchlists"

/-- The name of the second table. -/
def tickersName : String := "watchlist_tickers"

/-- The name of the index that finds the rows of the second table. -/
def indexName : String := "sqlite_autoindex_watchlist_tickers_1"

/-- The first table: its rows are found by the strategy. -/
def versionsDefinition : Definition where
  kind := "table"
  name := versionsName
  table := versionsName
  statement := some <| "CREATE TABLE watchlists (strategy_id INTEGER PRIMARY KEY, " ++
    "version INTEGER NOT NULL, updated_at TEXT NOT NULL)"

/-- The second table. -/
def tickersDefinition : Definition where
  kind := "table"
  name := tickersName
  table := tickersName
  statement := some <| "CREATE TABLE watchlist_tickers (strategy_id INTEGER NOT NULL, " ++
    "position INTEGER NOT NULL, ticker TEXT NOT NULL, PRIMARY KEY (strategy_id, position))"

/-- The index of the second table. -/
def indexDefinition : Definition where
  kind := "index"
  name := indexName
  table := tickersName
  statement := none

/-- The definitions that a database lacks. -/
def missing (entries : List Catalogue.Entry) : List Definition :=
  let lacking (name : String) (definitions : List Definition) : List Definition :=
    if (Catalogue.find? entries "table" name).isSome then [] else definitions
  lacking versionsName [versionsDefinition] ++
    lacking tickersName [tickersDefinition, indexDefinition]

/-! ## Rows -/

/-- The time that stands in every row of the first table, where no program reads it. -/
def standardTime : String := "1970-01-01 00:00:00"

/-- A row of the first table, with the number that it is found by. -/
def versionBytes (encoding : Encoding) (row : VersionRow) : Nat × Bytes :=
  (asUnsigned row.strategy,
    Row.bytes [.null, .integer row.version, .text (encoding.encode standardTime)])

/-- A row of the second table. -/
def tickerBytes (encoding : Encoding) (row : TickerRow) : Bytes :=
  Row.bytes
    [.integer row.strategy, .integer row.position, .text (encoding.encode row.ticker)]

/-- An entry of the index for a row of the second table, with the number of the row. -/
def indexBytes (row : TickerRow) (rowid : Nat) : Bytes :=
  Row.bytes [.integer row.strategy, .integer row.position, .integer rowid]

/-- Reads a row of the first table. -/
def versionRow? : Nat × Bytes → Option VersionRow
  | (rowid, bytes) => do
    match ← Row.read? bytes with
    | _ :: .integer version :: _ => return ⟨asSigned rowid, version.toNat⟩
    | _ => none

/-- Reads a row of the second table. -/
def tickerRow? (encoding : Encoding) (bytes : Bytes) : Option TickerRow := do
  match ← Row.read? bytes with
  | [.integer strategy, .integer position, ticker] =>
    return ⟨strategy, position.toNat, ← ticker.string? encoding⟩
  | _ => none

/-! ## Tables -/

/-- What is there, or else a fault of the database. -/
def sound {α : Type} : Option α → Except DatabaseError α
  | some value => .ok value
  | none => .error .malformed

/-- The root of one of the tables. -/
def findTable (image : Image) (name : String) : Except DatabaseError Nat := do
  sound (Catalogue.find? (← Catalogue.entries image) "table" name)

/-- The rows of the first table in a database. -/
def versionsIn (image : Image) : Except DatabaseError (List VersionRow) := do
  (← Tree.rows image (← findTable image versionsName)).mapM fun row => sound (versionRow? row)

/-- The rows of the second table in a database. -/
def tickersIn (image : Image) : Except DatabaseError (List TickerRow) := do
  (← Tree.rows image (← findTable image tickersName)).mapM fun (_, bytes) =>
    sound (tickerRow? image.encoding bytes)

/-- The tables in a database. -/
def ofImage (image : Image) : Except DatabaseError Tables := do
  return ⟨← versionsIn image, ← tickersIn image⟩

/-- The latest watchlist of a strategy in a database.  The second table is not looked at if there
is none. -/
def loadFrom (image : Image) (strategy : Int) : Except DatabaseError (Option Watchlist) := do
  let versions ← versionsIn image
  if versions.all fun row => row.strategy != strategy then return none
  return (Tables.mk versions (← tickersIn image)).load strategy

/-- The rows of the second table in the order of its index. -/
def inOrder (rows : List TickerRow) : List TickerRow :=
  rows.mergeSort fun a b =>
    decide (a.strategy < b.strategy ∨ a.strategy = b.strategy ∧ a.position ≤ b.position)

/-- Puts tables in the place of those in a database. -/
def putInto (tables : Tables) (image : Image) : Except DatabaseError Image := do
  let encoding := image.encoding
  let versions := tables.versions.mergeSort fun a b => decide (a.strategy ≤ b.strategy)
  let image ← Tree.writeRows image (← findTable image versionsName)
    (versions.map (versionBytes encoding))
  let tickers := (inOrder tables.tickers).zipIdx 1
  let image ← Tree.writeRows image (← findTable image tickersName)
    (tickers.map fun (row, rowid) => (rowid, tickerBytes encoding row))
  match Catalogue.find? (← Catalogue.entries image) "index" indexName with
  | none => return image
  | some index =>
    Tree.writeIndex image index (tickers.map fun (row, rowid) => indexBytes row rowid)

end Screener.Tables
