import Screener.Scan.Service

/-!
# Sources

A source answers a question for bars in the same way whenever it is asked: with bars, with a failure
or with a crash.  As a market it records what it has been asked, so that it can be said of a scan
which questions it asks and in which order.

Whoever asks for the tickers of a list asks once for each of its positions, and what is made of an
answer depends on this answer only (`Source.run_mapM_history`).
-/

namespace Screener

/-- A question for bars, as a market gets it. -/
structure Fetch where
  ticker : String
  timeframe : Timeframe
  limit : Nat
  deriving Repr, DecidableEq

/-- The answers to all questions. -/
structure Source where
  history : Fetch → Attempt (List (Bar Float))
  listing : Timeframe → Attempt (List String)

namespace Source

/-- The market that answers as the source does and records the questions for bars, latest last. -/
def market (source : Source) : Market (StateM (List Fetch)) where
  history ticker timeframe limit := do
    modify fun fetched => fetched ++ [⟨ticker, timeframe, limit⟩]
    return source.history ⟨ticker, timeframe, limit⟩
  listing timeframe := return source.listing timeframe

/-- Asking for the bars of the tickers at all positions of a list. -/
theorem run_mapM_history (source : Source) (timeframe : Timeframe) (limit : Nat) {α β : Type}
    (ticker : α → String) (use : α → Attempt (List (Bar Float)) → β) (positions : List α)
    (fetched : List Fetch) :
    (positions.mapM fun position => do
        let bars ← source.market.history (ticker position) timeframe limit
        return use position bars).run fetched =
      (positions.map fun position =>
          use position (source.history ⟨ticker position, timeframe, limit⟩),
        fetched ++ positions.map fun position => ⟨ticker position, timeframe, limit⟩) := by
  induction positions generalizing fetched with
  | nil => exact congrArg (Prod.mk []) (List.append_nil fetched).symm
  | cons position rest ih =>
      have hrest := ih (fetched ++ [⟨ticker position, timeframe, limit⟩])
      rw [List.append_assoc] at hrest
      rw [List.mapM_cons]
      -- the first question is recorded before the others are asked
      exact congrArg (fun given : List β × List Fetch =>
        (use position (source.history ⟨ticker position, timeframe, limit⟩) :: given.1, given.2))
        hrest

end Source

/-- The service with a source as its market. -/
def Service.on (service : Service (StateM (List Fetch))) (source : Source) :
    Service (StateM (List Fetch)) :=
  { service with market := source.market }

/-! ## A source of all kinds of answers -/

/-- A rising ticker, a falling one and one whose bars cannot be read. -/
def mixedAnswers : Source where
  history fetch :=
    match fetch.ticker with
    | "UP" => .ok [⟨⟨0, false⟩, 9, 12, 9, 10, 500, 5500⟩, ⟨⟨86400, false⟩, 10, 12, 9, 11, 500, 5500⟩]
    | "DOWN" => .ok [⟨⟨0, false⟩, 10, 12, 9, 9, 500, 5500⟩]
    | "TORN" => .error (.crash "index out of bounds")
    | _ => .ok []
  listing _ := .ok ["UP", "DOWN", "TORN"]

/-- The same answers for the rising ticker, and no others. -/
def risingAnswers : Source where
  history fetch :=
    if fetch.ticker = "UP" then mixedAnswers.history fetch
    else fail (.dataSource fetch.ticker "no answer")
  listing := mixedAnswers.listing

/-- A service for the mixed answers that keeps no watchlists. -/
def mixedService (settings : Settings) : Service (StateM (List Fetch)) where
  market := mixedAnswers.market
  keeper := ⟨fun _ _ => return fail .emptyUniverse, fun _ => return .ok none⟩
  settings := settings

end Screener
