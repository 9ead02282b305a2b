import Screener.File.Access
import Screener.File.Path
import Screener.Records.Writer

/-!
# Files of records

A table is written to a file, and the directories that lead to the file are made.
-/

namespace Screener.Records

variable {m : Type → Type} [Monad m] [Files m]

/-- Makes the directory in which a file will be. -/
def makeParent (path : String) : m (Except Failure Unit) :=
  match Path.parent? path with
  | none => return .ok ()
  | some directory =>
    if directory.isEmpty then return .ok ()
    else return (← Files.makeDirectories directory).mapError .io

/-- Writes a table to a file. -/
def write (path table : String) : m (Except Failure Unit) := do
  match ← makeParent path with
  | .error failure => return .error failure
  | .ok () =>
    return (← Files.writeText path table).mapError fun e =>
      .storage ("failed to open " ++ path ++ ": " ++ e.message)

end Screener.Records
