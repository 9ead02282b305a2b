import Screener.Proofs.Scan.Keeping

/-!
# Tasks and their names

A system names the tasks that are started one after another, and nobody else has a say in it.  In
such a system (`Service.naming`) a second scan starts as many tasks as its watchlist has positions,
in their order, and otherwise it is as before (`Service.run_outcomes_naming`).
-/

namespace Screener

/-- The tickers of a list with the names of their tasks, after a number of tasks have been
started. -/
def namedTasks (names : Nat → String) (started : Nat) (tickers : List String) :
    List (String × String) :=
  (tickers.zipIdx started).map fun (ticker, number) => (ticker, names number)

section NamedTasks

variable (names : Nat → String) (started : Nat)

theorem namedTasks_append (first second : List String) :
    namedTasks names started (first ++ second) =
      namedTasks names started first ++ namedTasks names (started + first.length) second := by
  rw [namedTasks, List.zipIdx_append, List.map_append]
  rfl

@[simp] theorem map_fst_namedTasks (tickers : List String) :
    (namedTasks names started tickers).map Prod.fst = tickers := by
  rw [namedTasks, List.map_map]
  exact List.zipIdx_map_fst started tickers

end NamedTasks

namespace Service

variable {m : Type → Type} [Monad m] (service : Service m) (names : Nat → String)

/-- The service in a system that names its tasks one after another. -/
def naming : Service (StateT Nat m) where
  market := service.market.lift
  keeper := service.keeper.lift
  registry := service.registry
  settings := service.settings
  startTask := modifyGet fun started => (names started, started + 1)

variable [LawfulMonad m]

theorem run_startTasks_naming (tickers : List String) (started : Nat) :
    ((service.naming names).startTasks tickers).run started =
      pure (namedTasks names started tickers, started + tickers.length) := by
  induction tickers generalizing started with
  | nil => rfl
  | cons ticker rest ih =>
      have hstart : ((service.naming names).startTask).run started =
          pure (names started, started + 1) := rfl
      have hlength : started + 1 + rest.length = started + (ticker :: rest).length := by
        rw [List.length_cons]
        omega
      rw [startTasks, List.mapM_cons, StateT.run_bind, StateT.run_bind, hstart]
      simp only [pure_bind, StateT.run_pure, StateT.run_bind]
      rw [← startTasks, ih, pure_bind, hlength]
      rfl

theorem run_outcomes_naming (rule : HistoryRule) (watchlist : List String) (started : Nat) :
    ((service.naming names).outcomes rule watchlist).run started =
      (fun outcomes => (outcomes, started + watchlist.length)) <$>
        (namedTasks names started watchlist).mapM (service.scanned rule) := by
  have hscan : ∀ task started, ((service.naming names).scanned rule task).run started =
      (fun outcome => (outcome, started)) <$> service.scanned rule task := by
    intro task started
    simp [scanned, naming, Market.lift]
  rw [outcomes_eq_mapM, StateT.run_bind, run_startTasks_naming, pure_bind]
  exact run_mapM_of_run_eq hscan _ _

end Service

end Screener
