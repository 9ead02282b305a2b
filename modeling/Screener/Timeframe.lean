import Screener.Text.Blank
import Screener.Text.Upper

/-!
# Timeframes

The span of time that one bar covers.  A timeframe has one name, which also occurs in the names of
files, and is read in a few more spellings.
-/

namespace Screener

/-- The span of time of a bar. -/
inductive Timeframe where
  | minute1 | minute3 | minute5 | minute10 | minute15 | minute30 | minute60 | minute240
  | day | week | month
  deriving Repr, DecidableEq

namespace Timeframe

/-- The timeframe that is taken where none is given. -/
def standard : Timeframe := day

instance : Inhabited Timeframe := ⟨standard⟩

/-- All timeframes, shortest first. -/
def all : List Timeframe :=
  [minute1, minute3, minute5, minute10, minute15, minute30, minute60, minute240, day, week, month]

/-- The name of a timeframe. -/
def name : Timeframe → String
  | minute1 => "minute1"
  | minute3 => "minute3"
  | minute5 => "minute5"
  | minute10 => "minute10"
  | minute15 => "minute15"
  | minute30 => "minute30"
  | minute60 => "minute60"
  | minute240 => "minute240"
  | day => "day"
  | week => "week"
  | month => "month"

/-- Other spellings; here, unlike in names, upper and lower case differ. -/
def aliases : List (String × Timeframe) :=
  [("1d", day), ("days", day), ("1w", week), ("weeks", week), ("1M", month), ("months", month)]

/-- Reads a name in any case or another spelling; blank characters around it do not matter. -/
def read? (text : String) : Option Timeframe :=
  let spelling := Text.trimmed text
  match aliases.lookup spelling with
  | some timeframe => some timeframe
  | none => all.find? fun timeframe => timeframe.name.toList = Text.asciiLower spelling.toList

/-- The wording for a text that is no timeframe. -/
def unknownMessage (text : String) : String := "unknown timeframe: " ++ text

theorem mem_all (timeframe : Timeframe) : timeframe ∈ all := by
  cases timeframe <;> decide

/-- Names read back. -/
theorem read?_name (timeframe : Timeframe) : read? timeframe.name = some timeframe := by
  cases timeframe <;> rfl

end Timeframe

end Screener
