import Screener.Configuration.Basic
import Screener.Strategy

/-!
# Strategy files

A strategy file has a section for the strategy itself, one for each condition, and one with the
formulas of the declared variables.  `validate` checks what must be there and `build` makes the
strategy.
-/

namespace Screener.StrategyFile

/-- The number of the strategy. -/
def id (file : KeyFile) : Except Failure Int := do
  let raw ← file.require "strategy" "id"
  match Decimal.readInt64? (Text.trim raw.toList) with
  | some id => return id
  | none => throw (.configInvalid "strategy" "id" ("id must be an integer, got " ++ raw))

/-- The names of the declared variables, in their order. -/
def variableNames (file : KeyFile) : List String := (file.list? "2nd_scan" "variables").getD []

/-- Checks the section of the first condition, if there is one. -/
def checkLatest (file : KeyFile) : Except Failure Unit :=
  if file.hasSection "1st_scan" then discard <| file.require "1st_scan" "condition" else .ok ()

/-- Checks the section of the second condition, if there is one. -/
def checkHistory (file : KeyFile) : Except Failure Unit :=
  if file.hasSection "2nd_scan" then do
    discard <| file.require "2nd_scan" "condition"
    discard <| file.timeframe "2nd_scan" "timeframe"
    (variableNames file).forM fun name => discard <| file.require "variables" name
  else .ok ()

/-- Checks a strategy file: it needs a number and at least one condition. -/
def validate (file : KeyFile) : Except Failure Unit := do
  discard <| id file
  if !file.hasSection "1st_scan" && !file.hasSection "2nd_scan" then
    throw (.configMissing "2nd_scan" "condition")
  checkLatest file
  checkHistory file

/-- The rule of the second scan, if there is a condition for it. -/
def historyRule (file : KeyFile) : Except Failure (Option HistoryRule) :=
  match file.string? "2nd_scan" "condition" with
  | none => .ok none
  | some condition => do
    let timeframe ← file.timeframe "2nd_scan" "timeframe"
    let declarations ← (variableNames file).mapM fun name => do
      return { name, expression := ← file.require "variables" name }
    return some { timeframe, declarations, condition }

/-- The strategy that a file describes. -/
def build (file : KeyFile) : Except Failure Strategy := do
  let id ← id file
  let history ← historyRule file
  return {
    id
    name := (file.string? "strategy" "name").getD ("strategy-" ++ toString id)
    description := (file.string? "strategy" "description").getD ""
    market := (file.string? "strategy" "market").getD ""
    rules := { latest := file.string? "1st_scan" "condition", history } }

end Screener.StrategyFile
