import Screener.Calendar.Date
import Screener.Decimal.Layout
import Screener.Decimal.Reader
import Screener.Text.Blank

/-!
# Timestamps

A timestamp is a second counted from 1 January 1970, without a time zone.  A leap second, written
`:60`, has the count of the second before it and comes after it.  `read?` takes the four forms in
which timestamps are written and `text` writes the first of them.
-/

namespace Screener

/-- A second of the calendar. -/
structure Timestamp where
  /-- Seconds since the start of 1970. -/
  seconds : Int
  /-- Whether this is the leap second after `seconds`. -/
  leap : Bool
  deriving Repr, DecidableEq, Inhabited

namespace Timestamp

open Calendar Decimal Text

/-- Earlier or the same. -/
def le (s t : Timestamp) : Bool :=
  s.seconds < t.seconds || (s.seconds = t.seconds && (!s.leap || t.leap))

/-- The parts of a written timestamp. -/
structure Civil where
  date : Date
  hour : Nat
  minute : Nat
  second : Nat

/-- The second that the parts name, if they name one. -/
def ofCivil? (c : Civil) : Option Timestamp :=
  if c.date.isValid ∧ c.hour ≤ 23 ∧ c.minute ≤ 59 ∧ c.second ≤ 60 then
    some ⟨86400 * c.date.toDays + 3600 * c.hour + 60 * c.minute + (min c.second 59 : Nat),
      c.second = 60⟩
  else none

/-- The parts of a timestamp. -/
def toCivil (t : Timestamp) : Civil :=
  let ofDay := (t.seconds % 86400).toNat
  ⟨Date.ofDays (t.seconds / 86400), ofDay / 3600, ofDay / 60 % 60,
    ofDay % 60 + (if t.leap then 1 else 0)⟩

/-- One step of a form: a number, a fixed character, or blank characters. -/
inductive Step where
  | year | month | day | hour | minute | second
  | mark (c : Char)
  | gap

/-- At least one digit and at most `most`, with what follows them. -/
private def leadingNumber (most : Nat) (cs : List Char) : Option (Nat × List Char) :=
  let ds := (cs.take most).takeWhile Char.isDigit
  (readNat? ds).map fun n => (n, cs.drop ds.length)

/-- A year has up to four digits, or a sign and any number of them. -/
private def leadingYear : List Char → Option (Int × List Char)
  | '-' :: rest => (leadingNumber rest.length rest).map fun (n, rest) => (-n, rest)
  | '+' :: rest => (leadingNumber rest.length rest).map fun (n, rest) => (n, rest)
  | cs => (leadingNumber 4 cs).map fun (n, rest) => (n, rest)

/-- Reads one step; blank characters may stand before a number. -/
def Step.read? (step : Step) (c : Civil) (cs : List Char) : Option (Civil × List Char) :=
  let short (put : Nat → Civil) :=
    (leadingNumber 2 (trimLeft cs)).map fun (n, rest) => (put n, rest)
  match step with
  | .year => (leadingYear (trimLeft cs)).map fun (y, rest) =>
      ({ c with date := { c.date with year := y } }, rest)
  | .month => short fun n => { c with date := { c.date with month := n } }
  | .day => short fun n => { c with date := { c.date with day := n } }
  | .hour => short fun n => { c with hour := n }
  | .minute => short fun n => { c with minute := n }
  | .second => short fun n => { c with second := n }
  | .mark m => match cs with
    | d :: rest => if d = m then some (c, rest) else none
    | [] => none
  | .gap => some (c, trimLeft cs)

/-- Reads a text that has a form from end to end. -/
def readForm? (form : List Step) (cs : List Char) : Option Timestamp := do
  let (civil, rest) ← form.foldlM (fun (civil, rest) step => step.read? civil rest)
    (⟨⟨0, 0, 0⟩, 0, 0, 0⟩, cs)
  if rest.isEmpty then ofCivil? civil else none

/-- The steps of a date. -/
private def dateForm : List Step := [.year, .mark '-', .month, .mark '-', .day]

/-- The steps of a time up to the minute. -/
private def clockForm : List Step := [.hour, .mark ':', .minute]

/-- The forms of a timestamp in the order in which they are tried: with a blank or a `T` between
date and time, without seconds, and without a time. -/
def forms : List (List Step) :=
  [dateForm ++ .gap :: clockForm ++ [.mark ':', .second],
   dateForm ++ .mark 'T' :: clockForm ++ [.mark ':', .second],
   dateForm ++ .gap :: clockForm,
   dateForm]

/-- The timestamp that a text stands for. -/
def read? (text : String) : Option Timestamp :=
  forms.findSome? (readForm? · text.toList)

/-- A number with zeros in front of it up to a width. -/
private def padded (width n : Nat) : String :=
  let ds := digits n
  String.ofList (List.replicate (width - ds.length) '0' ++ ds)

/-- A year of four digits; outside 0 to 9999 it has a sign. -/
private def yearText (year : Int) : String :=
  let size := padded 4 year.natAbs
  if 0 ≤ year ∧ year ≤ 9999 then size else if year < 0 then "-" ++ size else "+" ++ size

/-- Date and time with a space between them. -/
def text (t : Timestamp) : String :=
  let c := t.toCivil
  yearText c.date.year ++ "-" ++ padded 2 c.date.month ++ "-" ++ padded 2 c.date.day ++ " " ++
    padded 2 c.hour ++ ":" ++ padded 2 c.minute ++ ":" ++ padded 2 c.second

/-- The number that formulas see for a timestamp. -/
def toFloat (t : Timestamp) : Float := Float.ofInt t.seconds

end Timestamp

end Screener
