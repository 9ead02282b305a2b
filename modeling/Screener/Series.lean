/-!
# Series

The result of a formula: one entry for each row, all numbers or all truth values.  An entry may be
missing, because an indicator has not seen enough rows or a lag reaches beyond the first or the
last row.  `shift` is the lag; whoever reads the truth of a row takes a missing entry for false.
-/

namespace Screener

/-- A column of numbers or of truth values with missing entries. -/
inductive Series where
  | numbers (rows : List (Option Float))
  | truths (rows : List (Option Bool))
  deriving Repr, BEq, Inhabited

/-- The two kinds of series. -/
inductive Series.Kind where
  | number
  | boolean
  deriving Repr, DecidableEq

/-- The word for a kind of series in messages. -/
def Series.Kind.word : Series.Kind → String
  | .number => "number"
  | .boolean => "boolean"

namespace Series

/-- A series of numbers none of which is missing. -/
def ofNumbers (values : List Float) : Series := .numbers (values.map some)

/-- The same number in every row. -/
def broadcast (value : Float) (rows : Nat) : Series := .numbers (List.replicate rows (some value))

/-- The number of rows. -/
def length : Series → Nat
  | numbers rows => rows.length
  | truths rows => rows.length

/-- Whether the entries are numbers or truth values. -/
def kind : Series → Kind
  | numbers _ => .number
  | truths _ => .boolean

/-- Whether row `index` holds a truth value that is present and true. -/
def isTrueAt (series : Series) (index : Nat) : Bool :=
  match series with
  | truths rows => rows[index]? == some (some true)
  | numbers _ => false

/-- Whether the last row holds a truth value that is present and true. -/
def lastIsTrue (series : Series) : Bool :=
  series.length != 0 && series.isTrueAt (series.length - 1)

/-- Moves entries towards later rows by `periods`, or towards earlier rows if `periods` is
negative; rows that no entry moves to are missing. -/
def shiftRows {α : Type} (rows : List (Option α)) (periods : Int) : List (Option α) :=
  let gap := List.replicate (min periods.natAbs rows.length) none
  if 0 ≤ periods then gap ++ rows.take (rows.length - periods.natAbs)
  else rows.drop periods.natAbs ++ gap

/-- The series as it was `periods` rows ago. -/
def shift (series : Series) (periods : Int) : Series :=
  match series with
  | numbers rows => numbers (shiftRows rows periods)
  | truths rows => truths (shiftRows rows periods)

@[simp] theorem length_shiftRows {α : Type} (rows : List (Option α)) (periods : Int) :
    (shiftRows rows periods).length = rows.length := by
  unfold shiftRows
  split <;> simp <;> omega

@[simp] theorem length_shift (series : Series) (periods : Int) :
    (series.shift periods).length = series.length := by
  cases series <;> simp [shift, length]

end Series

end Screener
