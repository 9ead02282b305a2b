import Screener.Bar

/-!
# Frames

A frame is the table that formulas are evaluated on: one row for each bar, with a fixed set of
numeric columns.  The rows of a history are the bars of one ticker in the order of time; the rows
of a snapshot are the latest bars of several tickers, and each row carries its ticker.
-/

namespace Screener

/-- Bars as rows, with a ticker for each row in a snapshot. -/
structure Frame where
  bars : List (Bar Float)
  tickers : Option (List String) := none
  deriving Inhabited

namespace Frame

/-- The names of the numeric columns. -/
def columns : List String := ["open", "high", "low", "close", "volume", "amount", "timestamp"]

/-- The frame of a history. -/
def ofBars (bars : List (Bar Float)) : Frame := { bars }

/-- The frame without rows. -/
def empty : Frame := ofBars []

/-- The frame of the latest bars of several tickers, in the given order. -/
def snapshot (rows : List (String × Bar Float)) : Frame :=
  { bars := rows.map Prod.snd, tickers := some (rows.map Prod.fst) }

/-- The number of rows. -/
def size (frame : Frame) : Nat := frame.bars.length

/-- The bar of the last row. -/
def lastBar? (frame : Frame) : Option (Bar Float) := frame.bars.getLast?

/-- How a column reads a bar. -/
def cell? : String → Option (Bar Float → Float)
  | "open" => some Bar.opening
  | "high" => some Bar.high
  | "low" => some Bar.low
  | "close" => some Bar.close
  | "volume" => some Bar.volume
  | "amount" => some Bar.amount
  | "timestamp" => some (·.timestamp.toFloat)
  | _ => none

/-- The values of a column from the first row to the last. -/
def column? (frame : Frame) (name : String) : Option (List Float) :=
  (cell? name).map frame.bars.map

/-- The last prices of all rows. -/
def closes (frame : Frame) : List Float := frame.bars.map Bar.close

/-- The volumes of all rows. -/
def volumes (frame : Frame) : List Float := frame.bars.map Bar.volume

/-- The first `n` rows. -/
def take (frame : Frame) (n : Nat) : Frame :=
  { bars := frame.bars.take n, tickers := frame.tickers.map (·.take n) }

@[simp] theorem size_ofBars (bars : List (Bar Float)) : (ofBars bars).size = bars.length := rfl

@[simp] theorem size_snapshot (rows : List (String × Bar Float)) :
    (snapshot rows).size = rows.length := by
  simp [snapshot, size]

/-- The names of the columns are those that have values, in every frame. -/
theorem mem_columns_iff (frame : Frame) (name : String) :
    name ∈ columns ↔ (frame.column? name).isSome = true := by
  simp only [columns, column?, Option.isSome_map, cell?]
  constructor
  · intro h
    simp only [List.mem_cons, List.not_mem_nil, or_false] at h
    rcases h with rfl | rfl | rfl | rfl | rfl | rfl | rfl <;> rfl
  · split <;> simp

end Frame

/-- Three days on which the prices rise. -/
def threeRises : Frame :=
  .ofBars
    [{ timestamp := ⟨0, false⟩, opening := 10, high := 12, low := 9, close := 11,
       volume := 500, amount := 5500 },
     { timestamp := ⟨86400, false⟩, opening := 11, high := 14, low := 11, close := 13,
       volume := 800, amount := 9600 },
     { timestamp := ⟨172800, false⟩, opening := 13, high := 16, low := 12, close := 15,
       volume := 900, amount := 12600 }]

end Screener
