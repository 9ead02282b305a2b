import Screener.File.Access
import Screener.File.Path

/-!
# File trees

A tree of directories and files in memory, with the answers that a file system gives about it.  All
paths start at its root.  Every directory on the way to a name must be there, also where the path
turns back with two points.  Above the root there is always one more directory.
-/

namespace Screener

/-- What a name in a tree stands for. -/
inductive FileTree.Item where
  | directory
  | file (bytes : ByteArray)

/-- The items below the root, each with the names that lead to it. -/
structure FileTree where
  items : List (List String × FileTree.Item) := []

namespace FileTree

/-- The tree with an empty root. -/
def empty : FileTree := {}

/-- Whether a place is the root or above it: it is written with two points only. -/
def isOutside (place : List String) : Bool := place.all (· == "..")

/-- What is at a place. -/
def item? (tree : FileTree) (place : List String) : Option Item :=
  if isOutside place then some .directory else tree.items.lookup place

/-- Puts an item at a place. -/
def put (tree : FileTree) (place : List String) (item : Item) : FileTree :=
  ⟨(place, item) :: tree.items.filter fun entry => entry.1 != place⟩

/-- The greatest number of bytes in a name. -/
def longestName : Nat := 255

/-- The number of bytes that a path stays below. -/
def longestPath : Nat := 4096

/-- A path that a file system would look at. -/
def checkPath (path : String) : Except SystemError Unit :=
  if '\x00' ∈ path.toList then .error .zeroInPath
  else if path.isEmpty then .error .notFound
  else if longestPath ≤ path.utf8ByteSize then .error .nameTooLong
  else .ok ()

/-- Goes one name further from a place, which must be a directory. -/
def enter (tree : FileTree) (place : List String) (name : String) :
    Except SystemError (List String) :=
  match tree.item? place with
  | none => .error .notFound
  | some (.file _) => .error .notDirectory
  | some .directory =>
    if name = "." then .ok place
    else if name = ".." then .ok (if isOutside place then place ++ [name] else place.dropLast)
    else if longestName < name.utf8ByteSize then .error .nameTooLong
    else .ok (place ++ [name])

/-- The names of a path; a slash at the end stands for the directory before it. -/
def steps (path : String) : List String :=
  Path.names path ++ if path.toList.getLast? = some '/' then ["."] else []

/-- The place that a path leads to, and what is there. -/
def find (tree : FileTree) (path : String) : Except SystemError (List String × Item) := do
  checkPath path
  let place ← (steps path).foldlM tree.enter []
  match tree.item? place with
  | some item => return (place, item)
  | none => throw .notFound

/-- The bytes of a file. -/
def readBytes (tree : FileTree) (path : String) : Except SystemError ByteArray := do
  match ← tree.find path with
  | (_, .file bytes) => return bytes
  | (_, .directory) => throw .isDirectory

/-- The names in a directory. -/
def names (tree : FileTree) (path : String) : Except SystemError (List String) := do
  match ← tree.find path with
  | (_, .file _) => throw .notDirectory
  | (directory, .directory) =>
    return tree.items.filterMap fun (place, _) =>
      if place.dropLast = directory then place.getLast? else none

/-- Whether a path leads to a directory. -/
def isDirectory (tree : FileTree) (path : String) : Bool :=
  match tree.find path with
  | .ok (_, .directory) => true
  | _ => false

/-- Makes a directory in one that is there. -/
def makeDirectory (tree : FileTree) (path : String) : Except SystemError FileTree := do
  checkPath path
  let names := Path.names path
  let directory ← names.dropLast.foldlM tree.enter []
  let place ← tree.enter directory (names.getLast?.getD ".")
  match tree.item? place with
  | none => return tree.put place .directory
  | some _ => throw .alreadyExists

/-- Whether a refusal to make a directory can be passed over, because the directory is there. -/
def isNeedless (tree : FileTree) (path : String) (refusal : SystemError) : Bool :=
  refusal = .alreadyExists && tree.isDirectory path

/-- Makes directories one after another, each in the one before it. -/
def makeEach (tree : FileTree) : List String → Except SystemError Unit × FileTree
  | [] => (.ok (), tree)
  | path :: rest =>
    match tree.makeDirectory path with
    | .ok tree => tree.makeEach rest
    | .error e => if tree.isNeedless path e then tree.makeEach rest else (.error e, tree)

/-- Goes outwards to the first directory that is there or can be made, and from there back inwards
through the `missing` ones. -/
def makeOutwards (tree : FileTree) (missing : List String) :
    List String → Except SystemError Unit × FileTree
  | [] => tree.makeEach missing
  | path :: rest =>
    match tree.makeDirectory path with
    | .ok tree => tree.makeEach missing
    | .error .notFound => tree.makeOutwards (path :: missing) rest
    | .error e => if tree.isNeedless path e then tree.makeEach missing else (.error e, tree)

/-- Makes a directory and those that contain it.  What was made before a refusal stays. -/
def makeDirectories (tree : FileTree) (path : String) : Except SystemError Unit × FileTree :=
  tree.makeOutwards [] (Path.ancestors path)

/-- Makes a file or replaces what it holds. -/
def writeBytes (tree : FileTree) (path : String) (bytes : ByteArray) :
    Except SystemError FileTree := do
  checkPath path
  let names := Path.names path
  let directory ← names.dropLast.foldlM tree.enter []
  let place ← tree.enter directory (names.getLast?.getD ".")
  if path.toList.getLast? = some '/' then throw .isDirectory
  match tree.item? place with
  | some .directory => throw .isDirectory
  | some (.file _) => return tree.put place (.file bytes)
  | none => return tree.put place (.file bytes)

instance {m : Type → Type} [Monad m] : Files (StateT FileTree m) where
  readBytes path := return (← get).readBytes path
  names path := return ((← get).names path).map (List.map .ok)
  makeDirectories path := modifyGet (·.makeDirectories path)
  writeBytes path bytes := modifyGet fun tree =>
    match tree.writeBytes path bytes with
    | .ok tree => (.ok (), tree)
    | .error e => (.error e, tree)

end FileTree

end Screener
