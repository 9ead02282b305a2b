import Screener.Database.Encoding

/-!
# Rows in bytes

A row is written as a header with a number for each of its values, which tells the kind and the
width of the value, and the bytes of the values after it.
-/

namespace Screener.Database

/-- A value in a row; a text is kept in the encoding of its database. -/
inductive Value where
  | null
  | integer (n : Int)
  | real (bytes : Bytes)
  | text (bytes : Bytes)
  | blob (bytes : Bytes)
  deriving Repr, DecidableEq

namespace Value

/-- The text of a value. -/
def string? (encoding : Encoding) : Value → Option String
  | text bytes => encoding.decode? bytes
  | _ => none

/-- The integer of a value. -/
def integer? : Value → Option Int
  | integer n => some n
  | _ => none

/-- The widths of integers; the first has the kind 1. -/
def widths : List Nat := [1, 2, 3, 4, 6, 8]

/-- The place in `widths` of the least width that holds an integer. -/
def widthIndex (n : Int) : Nat := widths.findIdx fun width => signed (signedBytesOf width n) = n

/-- The number for the kind and the width of a value.  Zero and one have kinds of their own, so
that no bytes are needed for them. -/
def kind : Value → Nat
  | null => 0
  | integer n => if n = 0 then 8 else if n = 1 then 9 else 1 + widthIndex n
  | real _ => 7
  | blob bytes => 12 + 2 * bytes.length
  | text bytes => 13 + 2 * bytes.length

/-- The bytes of a value. -/
def body : Value → Bytes
  | null => []
  | integer n => if n = 0 ∨ n = 1 then [] else signedBytesOf (widths.getD (widthIndex n) 8) n
  | real bytes => bytes
  | blob bytes => bytes
  | text bytes => bytes

/-- Reads a value of a kind, and gives the bytes after it. -/
def read? (kind : Nat) (bytes : Bytes) : Option (Value × Bytes) :=
  let take (width : Nat) (value : Bytes → Value) : Option (Value × Bytes) :=
    if bytes.length < width then none else some (value (bytes.take width), bytes.drop width)
  match kind with
  | 0 => some (null, bytes)
  | 7 => take 8 real
  | 8 => some (integer 0, bytes)
  | 9 => some (integer 1, bytes)
  | 10 => none
  | 11 => none
  | kind =>
    if kind < 12 then take (widths.getD (kind - 1) 0) fun bytes => integer (signed bytes)
    else take ((kind - 12) / 2) (if kind % 2 = 0 then blob else text)

end Value

/-- A row of values. -/
abbrev Row := List Value

namespace Row

/-- A row in bytes. -/
def bytes (row : Row) : Bytes :=
  let kinds := row.flatMap fun value => varint value.kind
  let size := if kinds.length < 127 then kinds.length + 1 else kinds.length + 2
  varint size ++ kinds ++ row.flatMap Value.body

/-- Reads values of the given kinds. -/
def readAll? : List Nat → Bytes → Option Row
  | [], _ => some []
  | kind :: kinds, bytes => do
    let (value, rest) ← Value.read? kind bytes
    return value :: (← readAll? kinds rest)

/-- The row that bytes hold. -/
def read? (bytes : Bytes) : Option Row := do
  let (size, rest) ← varint? bytes
  let kinds ← varints? bytes.length (rest.take (size - (bytes.length - rest.length)))
  readAll? kinds (bytes.drop size)

end Row

end Screener.Database
