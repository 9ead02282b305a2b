import Screener.Text.Blank

/-!
# Tables of records

A table is a text with a record on each line and commas between the fields of a record.  A field in
quotes may hold commas and line ends, and a quote in it is written twice.  Blank lines hold no
record.  Every record knows where it stands, so that a fault in it can be found.
-/

namespace Screener

/-- A place in a text: the line, counted from one, and the bytes before it. -/
structure Place where
  line : Nat := 1
  byte : Nat := 0
  deriving Repr, DecidableEq

/-- The place after a character. -/
def Place.after (place : Place) (c : Char) : Place :=
  ⟨if c = '\n' then place.line + 1 else place.line, place.byte + c.utf8Size⟩

/-- The fields of a record without the blank characters around them, and the place where the
reading of the record began. -/
structure TableRow where
  place : Place
  fields : List String
  deriving Repr, DecidableEq

namespace TableRow

/-- What the reading of a table is in the middle of. -/
inductive Mode where
  /-- Before the first character of a record. -/
  | betweenRecords
  /-- Before the first character of a field. -/
  | fieldStart
  /-- In a field, outside quotes. -/
  | plain
  /-- In a field, inside quotes. -/
  | quoted
  /-- After a quote inside quotes, which ends them unless another quote follows. -/
  | afterQuote
  deriving Repr, DecidableEq

/-- The characters that end a record. -/
def endsRecord (c : Char) : Bool := c = '\n' || c = '\r'

/-- A record as far as it has been read: the place where it began, its fields and the characters of
the field being read, both last one first. -/
structure Partial where
  place : Place
  fields : List (List Char) := []
  field : List Char := []

namespace Partial

/-- Adds a character to the field being read. -/
def add (row : Partial) (c : Char) : Partial := { row with field := c :: row.field }

/-- Ends the field being read. -/
def endField (row : Partial) : Partial :=
  { row with fields := row.field.reverse :: row.fields, field := [] }

/-- The record that ends with the field being read. -/
def finish (row : Partial) : TableRow :=
  ⟨row.place, (row.field.reverse :: row.fields).reverse.map fun field =>
    String.ofList (Text.trim field)⟩

end Partial

/-- What a character does inside a record: it goes on with the record in some mode, or it ends the
record. -/
def step (mode : Mode) (row : Partial) (c : Char) : Option (Mode × Partial) :=
  match mode with
  | .quoted => if c = '"' then some (.afterQuote, row) else some (.quoted, row.add c)
  | _ =>
    if c = '"' ∧ mode = .afterQuote then some (.quoted, row.add c)
    else if c = '"' ∧ mode ≠ .plain then some (.quoted, row)
    else if c = ',' then some (.fieldStart, row.endField)
    else if endsRecord c then none
    else some (.plain, row.add c)

/-- The records of the rest of a text that starts at `here`. -/
def scan (mode : Mode) (row : Partial) (here : Place) : List Char → List TableRow
  | [] => if mode = .betweenRecords then [] else [row.finish]
  | c :: rest =>
    let next := here.after c
    if mode = .betweenRecords ∧ endsRecord c then scan .betweenRecords row next rest
    else match step mode row c with
      | some (mode, row) => scan mode row next rest
      | none => row.finish :: scan .betweenRecords { place := next } next rest

/-- The character that some programs put in front of a text to tell how it is encoded. -/
def byteOrderMark : Char := '\uFEFF'

/-- The records of a text. -/
def ofText (text : String) : List TableRow :=
  let start : Place := {}
  match text.toList with
  | [] => []
  | c :: rest =>
    if c = byteOrderMark then scan .betweenRecords { place := start } (start.after c) rest
    else scan .betweenRecords { place := start } start (c :: rest)

end TableRow

end Screener
