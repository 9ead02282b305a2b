import Screener.Decimal.Layout
import Screener.Scan.Report
import Screener.Watchlist.Basic

/-!
# Writing tables

Reports and watchlists are written as tables: the names of the columns, if there is any record, and
then a line for each record.  A field stands in quotes only where it could not be read back
otherwise.
-/

namespace Screener

namespace Records

/-- Whether a character forces its field into quotes. -/
def needsQuotes (c : Char) : Bool := c = ',' || c = '"' || c = '\n' || c = '\r'

/-- A field, in quotes if need be; inside them a quote is written twice. -/
def field (text : String) : String :=
  if text.toList.any needsQuotes then
    let inside := text.toList.flatMap fun c => if c = '"' then ['"', '"'] else [c]
    String.ofList ('"' :: inside ++ ['"'])
  else text

/-- A record on a line. -/
def line (fields : List String) : String := ",".intercalate (fields.map field) ++ "\n"

/-- A table; without records there are no names either. -/
def table (names : List String) (records : List (List String)) : String :=
  if records.isEmpty then "" else String.join ((names :: records).map line)

/-- Numbers in tables have at least one place and are written with a power of ten below `1e-5` and
from `1e16` on. -/
def amount : Decimal.Layout := ⟨1, some (-5, 15), .even⟩

end Records

/-- The qualifying tickers with their latest bars as a table. -/
def Report.table (report : Report) : String :=
  Records.table ["ticker", "timestamp", "open", "high", "low", "close", "volume", "amount"]
    (report.results.map fun (ticker, bar) =>
      [ticker, bar.timestamp.text] ++
        [bar.opening, bar.high, bar.low, bar.close, bar.volume, bar.amount].map
          Records.amount.text)

/-- The tickers of a watchlist with their positions as a table. -/
def Watchlist.table (list : Watchlist) : String :=
  Records.table ["strategy_id", "version", "position", "ticker"]
    (list.tickers.zipIdx.map fun (ticker, position) =>
      [toString list.strategy, toString list.version, toString position, ticker])

end Screener
