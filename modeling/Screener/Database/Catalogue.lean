import Screener.Database.Tree
import Screener.Database.Value

/-!
# Catalogues

The tree at the first page of a database is a table that lists all tables and indexes, each with the
root of its tree and the statement that defines it.
-/

namespace Screener.Database

/-- What a catalogue says about a table or an index. -/
structure Definition where
  kind : String
  name : String
  /-- The table to which an index belongs; a table belongs to itself. -/
  table : String
  /-- The statement that defines it; an index that comes with a table has none. -/
  statement : Option String
  deriving Repr, DecidableEq

namespace Catalogue

/-- The page of the catalogue. -/
def root : Nat := 1

/-- Where the header counts changes of the catalogue. -/
def changesPlace : Nat := 40

/-- An entry of a catalogue: what is defined, and the root of its tree. -/
structure Entry where
  kind : String
  /-- The name in lower case; the case of ASCII letters does not matter in names. -/
  name : String
  root : Nat
  deriving Repr, DecidableEq

/-- Reads an entry. -/
def Entry.ofRow? (encoding : Encoding) : Row → Option Entry
  | kind :: name :: _ :: root :: _ => do
    return ⟨← kind.string? encoding, (← name.string? encoding).toLower, (← root.integer?).toNat⟩
  | _ => none

/-- The entries of a catalogue. -/
def entries (image : Image) : Except DatabaseError (List Entry) := do
  (← Tree.rows image root).mapM fun (_, bytes) =>
    ((Row.read? bytes).bind (Entry.ofRow? image.encoding)).elim (throw .malformed) pure

/-- The root of a table or an index. -/
def find? (entries : List Entry) (kind name : String) : Option Nat :=
  (entries.find? fun entry => entry.kind = kind ∧ entry.name = name).map Entry.root

/-- The row for a definition. -/
def row (encoding : Encoding) (definition : Definition) (root : Nat) : Row :=
  let text (s : String) : Value := .text (encoding.encode s)
  [text definition.kind, text definition.name, text definition.table, .integer root,
    (definition.statement.map text).getD .null]

/-- Defines a table or an index without content. -/
def define (image : Image) (definition : Definition) : Except DatabaseError Image := do
  let rows ← Tree.rows image root
  let rowid := (rows.map Prod.fst).foldl max 0 + 1
  let (tree, image) := Tree.new image (definition.kind == "table")
  let entry := (row image.encoding definition tree).bytes
  let image ← Tree.writeRows image root (rows ++ [(rowid, entry)])
  let changes := Image.headerNumber image.header changesPlace 4 + 1
  return image.patchHeader changesPlace (bytesOf 4 changes)

end Catalogue

end Screener.Database
