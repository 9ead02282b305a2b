/-!
# Paths

A path names a file by the directories that lead to it, with slashes between them.  Repeated
slashes count as one, and a single point stands for the directory it is in.
-/

namespace Screener.Path

/-- Whether a path starts at the root and not in the current directory. -/
def isAbsolute (path : String) : Bool := path.toList.head? = some '/'

/-- A name below a directory; an absolute name stands for itself. -/
def join (directory name : String) : String :=
  if isAbsolute name ∨ directory.isEmpty then name
  else if directory.toList.getLast? = some '/' then directory ++ name
  else directory ++ "/" ++ name

/-- The names between the slashes of a path. -/
def names (path : String) : List String :=
  ((path.toList.splitOn '/').filter (!·.isEmpty)).map String.ofList

/-- The names that lead somewhere: a single point only counts at the start. -/
def components (path : String) : List String :=
  match names path with
  | [] => []
  | first :: rest =>
    let rest := rest.filter (· ≠ ".")
    if first = "." ∧ isAbsolute path then rest else first :: rest

/-- The path along some names, from the root or from the current directory. -/
def along (fromRoot : Bool) (components : List String) : String :=
  (if fromRoot then "/" else "") ++ "/".intercalate components

/-- The path of the directory that holds what a path names; a single name is in no named directory,
and the root in none at all. -/
def parent? (path : String) : Option String :=
  match components path with
  | [] => none
  | components => some (along (isAbsolute path) components.dropLast)

/-- The directories on the way to a path, the path itself first and the outermost last. -/
def ancestors (path : String) : List String :=
  let components := components path
  (List.range components.length).reverse.map fun n =>
    along (isAbsolute path) (components.take (n + 1))

/-- A name added to others; two points take the last one back. -/
def step (names : List String) (name : String) : List String :=
  if name = "." then names
  else if name = ".." ∧ names.getLast?.any (· ≠ "..") then names.dropLast
  else names ++ [name]

/-- The shortest path to what a path names, found without a look at the directories on the way. -/
def shortened (path : String) : String :=
  match (names path).foldl step [] with
  | [] => if isAbsolute path then "/" else "."
  | names => along (isAbsolute path) names

end Screener.Path
