import Screener.File.SystemError

/-!
# Access to files

What the program does with files and directories.  It runs on any computation that can do this: on
the files of a system, or on a `FileTree` that is part of the state.
-/

namespace Screener

/-- Computations that can read and write files. -/
class Files (m : Type → Type) where
  /-- The bytes of a file. -/
  readBytes : String → m (Except SystemError ByteArray)
  /-- The names in a directory, in any order.  Once it has been opened, each of them may still be
  refused. -/
  names : String → m (Except SystemError (List (Except SystemError String)))
  /-- Makes a directory and those that contain it, unless they are there. -/
  makeDirectories : String → m (Except SystemError Unit)
  /-- Makes a file or replaces what it holds. -/
  writeBytes : String → ByteArray → m (Except SystemError Unit)

namespace Files

variable {m : Type → Type} [Monad m] [Files m]

/-- A file as a text. -/
def readText (path : String) : m (Except SystemError String) := do
  match ← Files.readBytes path with
  | .error e => return .error e
  | .ok bytes =>
    match String.fromUTF8? bytes with
    | some text => return .ok text
    | none => return .error .notText

/-- Makes a file of a text. -/
def writeText (path text : String) : m (Except SystemError Unit) :=
  Files.writeBytes path text.toUTF8

/-- Files stay within reach of a computation that carries a further state. -/
instance (priority := low) {σ : Type} : Files (StateT σ m) where
  readBytes path := StateT.lift (Files.readBytes path)
  names path := StateT.lift (Files.names path)
  makeDirectories path := StateT.lift (Files.makeDirectories path)
  writeBytes path bytes := StateT.lift (Files.writeBytes path bytes)

end Files

end Screener
