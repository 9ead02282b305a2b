import Screener.File.Access
import Screener.Watchlist.Basic

/-!
# Runs

A run of the program writes lines to its two outputs, may keep watchlists for as long as it lasts,
and may stop early.
-/

namespace Screener

/-- What a run has written. -/
structure Console where
  stdout : String := ""
  stderr : String := ""
  deriving Repr, DecidableEq

/-- A part of a run. -/
abbrev Run (m : Type → Type) := ExceptT Stop (StateT Console (StateT Shelf m))

namespace Run

variable {m : Type → Type} [Monad m] {α : Type}

/-- Writes a line of results. -/
def say (line : String) : Run m Unit :=
  modify fun console => { console with stdout := console.stdout ++ line ++ "\n" }

/-- Writes a line about the run itself. -/
def note (line : String) : Run m Unit :=
  modify fun console => { console with stderr := console.stderr ++ line ++ "\n" }

/-- Goes on with a result, or stops. -/
def settle (result : Except Failure α) : Run m α :=
  ExceptT.mk (pure (result.mapError .failure))

/-- Goes on with what a computation gives, or stops. -/
def attempt (computation : StateT Shelf m (Attempt α)) : Run m α :=
  ExceptT.mk (StateT.lift computation)

/-- Goes on with what a computation on files gives, or stops. -/
def settleWith (computation : m (Except Failure α)) : Run m α :=
  attempt (StateT.lift (do return (← computation).mapError .failure))

end Run

end Screener
