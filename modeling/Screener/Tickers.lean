import Screener.Text.Blank
import Screener.Text.Upper

/-!
# Lists of tickers

A list of tickers is written with commas between them.  Tickers are kept in upper case, and no
ticker occurs twice.
-/

namespace Screener

/-- Why a text is no list of tickers. -/
inductive TickerError where
  | emptyToken
  | duplicate (ticker : String)
  deriving Repr, DecidableEq

/-- The wording of a ticker error. -/
def TickerError.message : TickerError → String
  | .emptyToken => "empty token in ticker list"
  | .duplicate ticker => "duplicate ticker: " ++ ticker

namespace Tickers

open Text

/-- The tickers of the remaining pieces of a list in which `seen` have occurred. -/
def readPieces (seen : List String) : List (List Char) → Except TickerError (List String)
  | [] => .ok []
  | piece :: rest =>
    let body := trim piece
    if body.isEmpty then .error .emptyToken
    else
      let ticker := String.ofList (upper body)
      if ticker ∈ seen then .error (.duplicate ticker)
      else (readPieces (ticker :: seen) rest).map (ticker :: ·)

/-- The tickers of a list in their order. -/
def read (text : String) : Except TickerError (List String) :=
  readPieces [] (text.toList.splitOn ',')

end Tickers

end Screener
