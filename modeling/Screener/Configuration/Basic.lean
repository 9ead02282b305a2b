import Screener.Failure
import Screener.KeyFile
import Screener.Timeframe

/-!
# Values of a configuration

How the values of a key file are taken: a key that must be there, and a timeframe.
-/

namespace Screener

/-- The value of a key that must have one. -/
def KeyFile.require (file : KeyFile) (sectionName key : String) : Except Failure String :=
  match file.string? sectionName key with
  | some value => .ok value
  | none => .error (.configMissing sectionName key)

theorem KeyFile.require_eq_ok_iff {file : KeyFile} {sectionName key value : String} :
    file.require sectionName key = .ok value ↔ file.string? sectionName key = some value := by
  unfold require
  cases file.string? sectionName key with
  | none => exact ⟨nofun, nofun⟩
  | some found => simp

/-- Reads the value of a key as a timeframe. -/
def readTimeframe (sectionName key value : String) : Except Failure Timeframe :=
  match Timeframe.read? value with
  | some timeframe => .ok timeframe
  | none => .error (.configInvalid sectionName key (Timeframe.unknownMessage value))

/-- The timeframe of a key, the standard one if the key has no value. -/
def KeyFile.timeframe (file : KeyFile) (sectionName key : String) : Except Failure Timeframe :=
  match file.string? sectionName key with
  | some value => readTimeframe sectionName key value
  | none => .ok .standard

end Screener
