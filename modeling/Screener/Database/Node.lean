import Screener.Database.Image

/-!
# Nodes of trees

A table is a tree of pages.  Each page of it is a node with cells.  The leaves hold the content;
a cell of any other node holds the number of a child and what divides it from the next child.
There are trees of rows, which are found by their number, and indexes, whose cells are in the order
of their content.  A content that is too long for its cell goes on in further pages.
-/

namespace Screener.Database

/-- The kind of a node. -/
structure NodeKind where
  isLeaf : Bool
  /-- Whether the node belongs to a tree of rows and not to an index. -/
  hasRows : Bool
  deriving DecidableEq

namespace NodeKind

/-- The byte that tells the kind. -/
def code (kind : NodeKind) : Nat := (if kind.hasRows then 5 else 2) + if kind.isLeaf then 8 else 0

/-- The kind that a byte tells. -/
def ofCode? (code : Nat) : Option NodeKind :=
  [⟨false, false⟩, ⟨false, true⟩, ⟨true, false⟩, ⟨true, true⟩].find? (·.code = code)

/-- The number of bytes that a node has before the places of its cells. -/
def headSize (kind : NodeKind) : Nat := if kind.isLeaf then 8 else 12

end NodeKind

/-- What a cell holds of a content, and the page where the rest of it is. -/
structure Content where
  size : Nat := 0
  bytes : Bytes := []
  overflow : Nat := 0

/-- A cell. -/
structure Cell where
  /-- The child before the cell; zero in a leaf. -/
  child : Nat := 0
  /-- The number of the row; zero in an index. -/
  rowid : Nat := 0
  content : Content := {}

/-- A node. -/
structure Node where
  kind : NodeKind
  cells : List Cell
  /-- The child after all cells; zero in a leaf. -/
  last : Nat

namespace Node

/-! ## Sizes -/

/-- The number of bytes of a content that its cell holds. -/
def inlineSize (image : Image) (hasRows : Bool) (size : Nat) : Nat :=
  let usable := image.usable
  let most := if hasRows then usable - 35 else (usable - 12) * 64 / 255 - 23
  let least := (usable - 12) * 32 / 255 - 23
  if size ≤ most then size
  else
    let wanted := least + (size - least) % (usable - 4)
    if wanted ≤ most then wanted else least

/-- Where a node starts in its page. -/
def start (number : Nat) : Nat := if number = 1 then Image.headerSize else 0

/-! ## Reading -/

/-- Reads a content. -/
def readContent? (image : Image) (hasRows : Bool) (size : Nat) (bytes : Bytes) : Option Content :=
  let inline := inlineSize image hasRows size
  let content := bytes.take inline
  if content.length < inline then none
  else some
    { size, bytes := content,
      overflow := if inline = size then 0 else unsigned ((bytes.drop inline).take 4) }

/-- Reads a cell. -/
def readCell? (image : Image) (kind : NodeKind) (bytes : Bytes) : Option Cell := do
  let child := if kind.isLeaf then 0 else unsigned (bytes.take 4)
  let bytes := if kind.isLeaf then bytes else bytes.drop 4
  if kind.hasRows ∧ ¬ kind.isLeaf then
    let (rowid, _) ← varint? bytes
    return { child, rowid }
  let (size, bytes) ← varint? bytes
  let (rowid, bytes) ← if kind.hasRows then varint? bytes else some (0, bytes)
  return { child, rowid, content := ← readContent? image kind.hasRows size bytes }

/-- Reads the node in a page. -/
def read? (image : Image) (number : Nat) : Option Node := do
  let page ← image.page? number
  let head := page.drop (start number)
  let kind ← NodeKind.ofCode? (unsigned (head.take 1))
  let count := unsigned ((head.drop 3).take 2)
  let places := (head.drop kind.headSize).take (2 * count)
  if places.length < 2 * count then none
  let cells ← (List.range count).mapM fun i =>
    readCell? image kind ((page.take image.usable).drop (unsigned ((places.drop (2 * i)).take 2)))
  return { kind, cells, last := if kind.isLeaf then 0 else unsigned ((head.drop 8).take 4) }

/-- The children of a node in their order. -/
def children (node : Node) : List Nat :=
  if node.kind.isLeaf then [] else node.cells.map Cell.child ++ [node.last]

/-! ## Writing -/

/-- The places of cells that are put before one another from the end of a page. -/
def places (limit : Nat) : List Bytes → List Nat
  | [] => []
  | cell :: rest => (limit - cell.length) :: places (limit - cell.length) rest

/-- The number of bytes that a page has for the cells of a node and for their places. -/
def room (image : Image) (number : Nat) (kind : NodeKind) : Nat :=
  image.usable - start number - kind.headSize

/-- The number of bytes that cells need, with their places. -/
def need (cells : List Bytes) : Nat := (cells.map fun cell => cell.length + 2).foldl (· + ·) 0

/-- Writes a node with the given cells to a page. -/
def write (image : Image) (number : Nat) (kind : NodeKind) (cells : List Bytes) (last : Nat) :
    Image :=
  let places := places image.usable cells
  let head := ((image.page? number).getD []).take (start number) ++
    bytesOf 1 kind.code ++ [0, 0] ++ bytesOf 2 cells.length ++
    bytesOf 2 (places.getLast?.getD image.usable) ++ [0] ++
    (if kind.isLeaf then [] else bytesOf 4 last) ++ places.flatMap (bytesOf 2)
  let tail := cells.reverse.flatten
  image.put number (Image.padded (image.usable - tail.length) head ++ tail)

end Node

end Screener.Database
