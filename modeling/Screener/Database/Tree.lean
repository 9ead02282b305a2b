import Screener.Database.Node

/-!
# Trees

A tree is read as the list of its contents, and written from such a list.  Its root keeps its page;
all other pages of a tree are free as soon as it is written anew.
-/

namespace Screener.Database.Tree

/-! ## Reading -/

/-- The nodes below some pages, each with its page and before its children.  A file has no more
nodes than pages. -/
def nodes (image : Image) (hasRows : Bool) :
    (count : Nat) → List Nat → Except DatabaseError (List (Nat × Node))
  | _, [] => .ok []
  | 0, _ :: _ => .error .malformed
  | count + 1, number :: rest => do
    match Node.read? image number with
    | none => throw .malformed
    | some node =>
      if node.kind.hasRows != hasRows then throw .malformed
      return (number, node) :: (← nodes image hasRows count (node.children ++ rest))

/-- The pages on which a content goes on, with what is on them. -/
def overflow (image : Image) : (count : Nat) → Nat → Except DatabaseError (List (Nat × Bytes))
  | _, 0 => .ok []
  | 0, _ + 1 => .error .malformed
  | count + 1, number + 1 => do
    match image.page? (number + 1) with
    | none => throw .malformed
    | some page =>
      let next := unsigned (page.take 4)
      let bytes := (page.take image.usable).drop 4
      return (number + 1, bytes) :: (← overflow image count next)

/-- The whole of a content, and the pages on which it goes on. -/
def content (image : Image) (part : Content) : Except DatabaseError (Bytes × List Nat) := do
  let further ← overflow image image.pages.size part.overflow
  let bytes := part.bytes ++ further.flatMap Prod.snd
  if bytes.length < part.size then throw .malformed
  return (bytes.take part.size, further.map Prod.fst)

/-- The contents of a tree of rows, each with the number of its row. -/
def rows (image : Image) (root : Nat) : Except DatabaseError (List (Nat × Bytes)) := do
  let nodes ← nodes image true image.pages.size [root]
  let cells := (nodes.filter (·.2.kind.isLeaf)).flatMap (·.2.cells)
  cells.mapM fun cell => do return (cell.rowid, (← content image cell.content).1)

/-- The pages of a tree apart from its root. -/
def pages (image : Image) (hasRows : Bool) (root : Nat) : Except DatabaseError (List Nat) := do
  let nodes ← nodes image hasRows image.pages.size [root]
  let further ← (nodes.flatMap (·.2.cells)).mapM fun cell => do
    return (← content image cell.content).2
  return (nodes.map Prod.fst).filter (· ≠ root) ++ further.flatten

/-! ## Writing -/

/-- A content as the cell of a leaf, and what stands for it in the nodes above. -/
structure Entry where
  cell : Bytes
  divider : Bytes

/-- A child with what divides it from the next one. -/
structure Branch where
  child : Nat
  divider : Bytes

/-- Changes to a database. -/
abbrev Change := StateM Image

/-- Takes a page and fills it. -/
def place (page : Bytes) : Change Nat := do
  let number ← modifyGet Image.allocate
  modify (·.put number page)
  return number

/-- Splits bytes into parts of a size. -/
def parts (size : Nat) : (count : Nat) → Bytes → List Bytes
  | 0, _ => []
  | count + 1, bytes =>
    if bytes.isEmpty then [] else bytes.take size :: parts size count (bytes.drop size)

/-- Puts parts on pages that lead from one to the next, and gives the first. -/
def chain : List Bytes → Change Nat
  | [] => return 0
  | part :: rest => do
    let next ← chain rest
    place (bytesOf 4 next ++ part)

/-- What a cell holds of a content, with the rest of it put on other pages. -/
def contentBytes (hasRows : Bool) (bytes : Bytes) : Change Bytes := do
  let image ← get
  let inline := Node.inlineSize image hasRows bytes.length
  if inline = bytes.length then return bytes
  let first ← chain (parts (image.usable - 4) bytes.length (bytes.drop inline))
  return bytes.take inline ++ bytesOf 4 first

/-- The entry of a row. -/
def rowEntry (row : Nat × Bytes) : Change Entry := do
  let (rowid, bytes) := row
  let content ← contentBytes true bytes
  return ⟨varint bytes.length ++ varint rowid ++ content, varint rowid⟩

/-- The entry of an index. -/
def indexEntry (bytes : Bytes) : Change Entry := do
  let cell := varint bytes.length ++ (← contentBytes false bytes)
  return ⟨cell, cell⟩

/-- Divides items into groups that fit into a room, but for single items. -/
def groups {α : Type} (size : α → Nat) (room : Nat) :
    (used : Nat) → (group : List α) → List α → List (List α)
  | _, group, [] => [group.reverse]
  | used, group, item :: rest =>
    if group.isEmpty ∨ used + size item ≤ room then
      groups size room (used + size item) (item :: group) rest
    else group.reverse :: groups size room (size item) [item] rest

/-- Moves an item to the last group if there is only one in it. -/
def evened {α : Type} : List (List α) → List (List α)
  | [] => []
  | [group] => [group]
  | [group, [item]] => [group.dropLast, group.getLast?.toList ++ [item]]
  | group :: rest => group :: evened rest

/-- The cell of a branch. -/
def Branch.cell (branch : Branch) : Bytes := bytesOf 4 branch.child ++ branch.divider

/-- Puts a node for some branches on a page of its own.  The divider of the last one goes up. -/
def placeNode (hasRows : Bool) (branches : List Branch) : Change Branch := do
  let number ← modifyGet Image.allocate
  let last := branches.getLast?.getD ⟨0, []⟩
  modify fun image =>
    Node.write image number ⟨false, hasRows⟩ (branches.dropLast.map Branch.cell) last.child
  return ⟨number, last.divider⟩

/-- Writes the nodes above some branches, with the root on its page. -/
def grow (root : Nat) (hasRows : Bool) : (count : Nat) → List Branch → Change Unit
  | count, branches => do
    let image ← get
    let kind : NodeKind := ⟨false, hasRows⟩
    let cells := branches.dropLast.map Branch.cell
    let last := branches.getLast?.getD ⟨0, []⟩
    if Node.need cells ≤ Node.room image root kind then
      set (Node.write image root kind cells last.child)
    else
      let size (branch : Branch) : Nat := branch.cell.length + 2
      let groups := evened (groups size (Node.room image 0 kind) 0 [] branches)
      match count with
      | 0 => return
      | count + 1 => grow root hasRows count (← groups.mapM (placeNode hasRows))

/-- Puts a leaf on a page of its own.  In an index the last entry goes up unless the leaf is the
last one. -/
def placeLeaf (hasRows isLast : Bool) (entries : List Entry) : Change Branch := do
  let number ← modifyGet Image.allocate
  let kept := if hasRows || isLast then entries else entries.dropLast
  modify fun image => Node.write image number ⟨true, hasRows⟩ (kept.map Entry.cell) 0
  return ⟨number, (entries.getLast?.map Entry.divider).getD []⟩

/-- Puts leaves on pages of their own. -/
def placeLeaves (hasRows : Bool) : List (List Entry) → Change (List Branch)
  | [] => return []
  | entries :: rest => do
    let branch ← placeLeaf hasRows rest.isEmpty entries
    return branch :: (← placeLeaves hasRows rest)

/-- Writes a tree with the given entries. -/
def writeEntries (root : Nat) (hasRows : Bool) (entries : List Entry) : Change Unit := do
  let image ← get
  let kind : NodeKind := ⟨true, hasRows⟩
  let cells := entries.map Entry.cell
  if Node.need cells ≤ Node.room image root kind then
    set (Node.write image root kind cells 0)
  else
    let size (entry : Entry) : Nat := entry.cell.length + 2
    let groups := groups size (Node.room image 0 kind) 0 [] entries
    grow root hasRows entries.length (← placeLeaves hasRows groups)

/-- Gives the pages of a tree back, apart from its root. -/
def release (image : Image) (hasRows : Bool) (root : Nat) : Except DatabaseError Image := do
  return { image with free := (← pages image hasRows root) ++ image.free }

/-- Writes a tree of rows in the place of another one. -/
def writeRows (image : Image) (root : Nat) (rows : List (Nat × Bytes)) :
    Except DatabaseError Image := do
  let image ← release image true root
  return ((do writeEntries root true (← rows.mapM rowEntry)).run image).2

/-- Writes an index in the place of another one. -/
def writeIndex (image : Image) (root : Nat) (contents : List Bytes) :
    Except DatabaseError Image := do
  let image ← release image false root
  return ((do writeEntries root false (← contents.mapM indexEntry)).run image).2

/-- Makes an empty tree, and gives its root. -/
def new (image : Image) (hasRows : Bool) : Nat × Image :=
  let (root, image) := image.allocate
  (root, Node.write image root ⟨true, hasRows⟩ [] 0)

end Screener.Database.Tree
