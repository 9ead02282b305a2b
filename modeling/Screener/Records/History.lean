import Screener.Bar
import Screener.Decimal.Reader
import Screener.Records.Table

/-!
# Histories in tables

The history of a ticker is a table.  Its first record names the columns, which may come in any order
and with other columns between them; each further record is a bar.  A bar without an amount gets the
amount that its volume is worth at the close.
-/

namespace Screener

/-- The columns of a history. -/
inductive Column where
  | timestamp | opening | high | low | close | volume | amount
  deriving Repr, DecidableEq

namespace Column

/-- All columns. -/
def all : List Column := [timestamp, opening, high, low, close, volume, amount]

/-- How a column is named in a table. -/
def name : Column → String
  | timestamp => "timestamp"
  | opening => "open"
  | high => "high"
  | low => "low"
  | close => "close"
  | volume => "volume"
  | amount => "amount"

/-- The column that a name stands for. -/
def ofName? (name : String) : Option Column := all.find? fun column => column.name = name

end Column

/-- What is wrong with a record. -/
inductive RecordFault where
  | unequalLength (found expected : Nat)
  | emptyNumber (field : Nat)
  | badNumber (field : Nat)
  | duplicateColumn (column : Column)
  | missingColumn (column : Column)
  deriving Repr, DecidableEq

/-- Why a table holds no history. -/
inductive HistoryError where
  /-- A faulty record: its number, not counting the names, and its place. -/
  | record (number : Nat) (place : Place) (fault : RecordFault)
  | timestamp (text : String)
  deriving Repr, DecidableEq

/-- The wording of a fault, with the stage at which it is found. -/
def RecordFault.describe : RecordFault → String × String
  | .unequalLength found expected => ("CSV error",
      "found record with " ++ toString found ++ " fields, but the previous record has " ++
        toString expected ++ " fields")
  | .emptyNumber field => ("CSV deserialize error",
      "field " ++ toString field ++ ": cannot parse float from empty string")
  | .badNumber field => ("CSV deserialize error",
      "field " ++ toString field ++ ": invalid float literal")
  | .duplicateColumn column => ("CSV deserialize error",
      "duplicate field `" ++ column.name ++ "`")
  | .missingColumn column => ("CSV deserialize error",
      "missing field `" ++ column.name ++ "`")

/-- The wording of a history error. -/
def HistoryError.message : HistoryError → String
  | .record number place fault =>
    "CSV parse error: " ++ fault.describe.1 ++ ": record " ++ toString number ++
      " (line: " ++ toString place.line ++ ", byte: " ++ toString place.byte ++ "): " ++
      fault.describe.2
  | .timestamp text => "invalid timestamp: " ++ text

namespace History

/-- The values of a record as far as they have been read. -/
structure Draft where
  timestamp : Option String := none
  /-- The numbers that have been read; an empty amount counts as read, but has no value. -/
  numbers : List (Column × Option Float) := []

namespace Draft

/-- Whether a column has been read. -/
def has (draft : Draft) (column : Column) : Bool :=
  match column with
  | .timestamp => draft.timestamp.isSome
  | _ => (draft.numbers.lookup column).isSome

/-- Reads the field of a column. -/
def read (draft : Draft) (index : Nat) (column : Column) (text : String) :
    Except RecordFault Draft :=
  if draft.has column then .error (.duplicateColumn column)
  else if column = .timestamp then .ok { draft with timestamp := some text }
  else
    let put (value : Option Float) : Draft :=
      { draft with numbers := (column, value) :: draft.numbers }
    if text.isEmpty then
      if column = .amount then .ok (put none) else .error (.emptyNumber index)
    else match Decimal.readFloat? text.toList with
      | some value => .ok (put (some value))
      | none => .error (.badNumber index)

/-- Reads the fields of a record from an index on; fields of unknown columns are passed over. -/
def readFields (draft : Draft) (index : Nat) : List (String × String) → Except RecordFault Draft
  | [] => .ok draft
  | (name, text) :: rest =>
    match Column.ofName? name with
    | none => draft.readFields (index + 1) rest
    | some column => do (← draft.read index column text).readFields (index + 1) rest

/-- The number of a column that must be there. -/
def number (draft : Draft) (column : Column) : Except RecordFault Float :=
  match draft.numbers.lookup column with
  | some (some value) => .ok value
  | _ => .error (.missingColumn column)

/-- The bar of a record, still with the text of its timestamp. -/
def finish (draft : Draft) : Except RecordFault (String × (Timestamp → Bar Float)) := do
  let text ← match draft.timestamp with
    | some text => .ok text
    | none => .error (.missingColumn .timestamp)
  let opening ← draft.number .opening
  let high ← draft.number .high
  let low ← draft.number .low
  let close ← draft.number .close
  let volume ← draft.number .volume
  let amount := ((draft.numbers.lookup .amount).bind id).getD (close * volume)
  return (text, fun timestamp => { timestamp, opening, high, low, close, volume, amount })

end Draft

/-- The values of a record, which must have a field for each name. -/
def readRow (names : List String) (row : TableRow) :
    Except RecordFault (String × (Timestamp → Bar Float)) :=
  if row.fields.length ≠ names.length then
    .error (.unequalLength row.fields.length names.length)
  else do (← ({} : Draft).readFields 0 (names.zip row.fields)).finish

/-- The bar of the record with a number. -/
def readBar (names : List String) (number : Nat) (row : TableRow) :
    Except HistoryError (Bar Float) := do
  let (text, bar) ← (readRow names row).mapError (.record number row.place)
  match Timestamp.read? text with
  | some timestamp => return bar timestamp
  | none => throw (HistoryError.timestamp text)

/-- The bars of the records from a number on, in the order of the table. -/
def readBars (names : List String) (number : Nat) :
    List TableRow → Except HistoryError (List (Bar Float))
  | [] => .ok []
  | row :: rest => do
    let bar ← readBar names number row
    return bar :: (← readBars names (number + 1) rest)

/-- Bars from the earliest to the latest; bars of the same time keep their order. -/
def inOrder (bars : List (Bar Float)) : List (Bar Float) :=
  bars.mergeSort fun a b => a.timestamp.le b.timestamp

/-- The history that a table holds. -/
def read (text : String) : Except HistoryError (List (Bar Float)) :=
  match TableRow.ofText text with
  | [] => .ok []
  | names :: rows => (readBars names.fields 1 rows).map inOrder

/-- The latest bars of a history, at most `limit`. -/
def latest {α : Type} (limit : Nat) (bars : List α) : List α := bars.drop (bars.length - limit)

end History

end Screener
