import Screener.CommandLine.Arguments
import Screener.CommandLine.Run

/-!
# The program

Runs one command on the files of the system.
-/

namespace Screener

/-- The refusal that a number of the system stands for. -/
def SystemError.ofCode (code : UInt32) (details : String) : SystemError :=
  match code.toNat with
  | 2 => .notFound
  | 17 => .alreadyExists
  | 20 => .notDirectory
  | 21 => .isDirectory
  | 36 => .nameTooLong
  | number => .other (details ++ " (os error " ++ toString number ++ ")")

/-- The refusal that an error of the system stands for. -/
def SystemError.ofError : IO.Error → SystemError
  | .noFileOrDirectory _ code details => .ofCode code details
  | .alreadyExists _ code details => .ofCode code details
  | .inappropriateType _ code details => .ofCode code details
  | .invalidArgument _ code details => .ofCode code details
  | .permissionDenied _ code details => .ofCode code details
  | .otherError code details => .ofCode code details
  | e => .other (toString e)

/-- What an action on files gives. -/
def caught {α : Type} (action : IO α) : IO (Except SystemError α) := do
  match ← action.toBaseIO with
  | .ok value => return .ok value
  | .error e => return .error (.ofError e)

/-- The names in a directory of the system. -/
def namesIn (path : String) : IO (List String) := do
  let entry : IO.FS.DirEntry := ⟨path, ""⟩
  return (← entry.root.readDir).toList.map (·.fileName)

instance : Files IO where
  readBytes path := caught (IO.FS.readBinFile path)
  names path := return (← caught (namesIn path)).map (List.map .ok)
  makeDirectories path := caught (IO.FS.createDirAll path)
  writeBytes path bytes := caught (IO.FS.writeBinFile path bytes)

/-- A task is called by the time of its start. -/
instance : Tasks IO where
  start := return toString (← IO.monoNanosNow)

/-- Writes what a run has written, and ends with its status. -/
def conclude : Except (Option String) Nat × Console → IO UInt32
  | (result, console) => do
    IO.print console.stdout
    IO.eprint console.stderr
    match result with
    | .ok status => return status.toUInt32
    | .error message =>
      IO.eprintln (message.getD "the run crashed")
      return 101

end Screener

open Screener in
/-- Reads the call, runs its command and ends with its status. -/
def main (words : List String) : IO UInt32 := do
  match Arguments.read words with
  | .ok invocation => conclude (← invocation.command.run)
  | .error e =>
    if e = .helpWanted ∨ e = .versionWanted then
      IO.println e.message
      return 0
    else
      IO.eprintln e.message
      return 2
