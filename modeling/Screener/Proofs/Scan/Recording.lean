import Screener.Proofs.Scan.Keeping
import Screener.Proofs.Watchlist.Journal

/-!
# Runs with a record of their saves

A service runs for as long as one likes: its phases, its full scans, and direct saves and loads,
in any order and for any strategies, while the market may change as it likes.  The saves that
succeed are recorded beside the run (`Keeper.recorded`).  The record is not seen by the run:
without it the same steps give the same replies (`Service.run_mapM_perform`).
-/

namespace Screener

/-! ## Recording saves -/

/-- The same keeper with a record of the saves that have succeeded. -/
def Keeper.recorded {m : Type → Type} [Monad m] {τ : Type} (keeper : Keeper (StateT τ m)) :
    Keeper (StateT (Journal × τ) m) where
  save strategy tickers := fun (journal, store) => do
    match ← (keeper.save strategy tickers).run store with
    | (.ok list, store) => return (.ok list, journal.record strategy tickers, store)
    | (.error stop, store) => return (.error stop, journal, store)
  load strategy := fun (journal, store) => do
    let (found, store) ← (keeper.load strategy).run store
    return (found, journal, store)

/-- The journal is the one that is recorded, and the place for watchlists stands for it. -/
def Keeper.Records {τ : Type} (holds : Journal → τ → Prop) (journal : Journal)
    (state : Journal × τ) : Prop :=
  state.1 = journal ∧ holds journal state.2

/-- A keeper that keeps journals keeps the one that is recorded. -/
theorem Keeper.Keeps.recorded {m : Type → Type} [Monad m] [LawfulMonad m] {τ : Type}
    {keeper : Keeper (StateT τ m)} {holds : Journal → τ → Prop} (hkeeps : keeper.Keeps holds) :
    keeper.recorded.Keeps (Keeper.Records holds) where
  save := by
    rintro journal ⟨_, store⟩ ⟨rfl, hholds⟩ strategy tickers
    obtain ⟨store', hholds', hsave⟩ := hkeeps.save hholds strategy tickers
    refine ⟨(_, store'), ⟨rfl, hholds'⟩, ?_⟩
    show ((keeper.save strategy tickers).run store >>= _) = _
    rw [hsave, pure_bind]
    rfl
  load := by
    rintro journal ⟨_, store⟩ ⟨rfl, hholds⟩ strategy
    show ((keeper.load strategy).run store >>= _) = _
    rw [hkeeps.load hholds strategy, pure_bind]

/-- A moment of a run: the saves that have succeeded, and the states of the place for watchlists and
of the market. -/
structure Moment (τ σ : Type) where
  journal : Journal
  store : τ
  world : σ

namespace Moment

variable {τ σ α β : Type} (moment : Moment τ σ)

/-- What a computation gives at a moment, and the moment after it. -/
def run (x : StateT (Journal × τ) (StateM σ) α) : α × Moment τ σ :=
  let ran := (x.run (moment.journal, moment.store)).run moment.world
  (ran.1.1, ⟨ran.1.2.1, ran.1.2.2, ran.2⟩)

theorem run_bind (x : StateT (Journal × τ) (StateM σ) α)
    (f : α → StateT (Journal × τ) (StateM σ) β) :
    moment.run (x >>= f) = (moment.run x).2.run (f (moment.run x).1) := rfl

end Moment

private theorem run_run_bind {τ σ α β : Type} (x : StateT τ (StateM σ) α)
    (f : α → StateT τ (StateM σ) β) (store : τ) (world : σ) :
    ((x >>= f).run store).run world =
      ((f ((x.run store).run world).1.1).run ((x.run store).run world).1.2).run
        ((x.run store).run world).2 := rfl

/-- One computation is like another one if the journal is left out. -/
def Unrecorded {τ σ α : Type} (x' : StateT (Journal × τ) (StateM σ) α)
    (x : StateT τ (StateM σ) α) : Prop :=
  ∀ moment : Moment τ σ, (x.run moment.store).run moment.world =
    (((moment.run x').1, (moment.run x').2.store), (moment.run x').2.world)

namespace Unrecorded

variable {τ σ α β : Type} {x' : StateT (Journal × τ) (StateM σ) α} {x : StateT τ (StateM σ) α}

theorem pure (a : α) : Unrecorded (Pure.pure a : StateT (Journal × τ) (StateM σ) α) (Pure.pure a) :=
  fun _ => rfl

theorem bind {f' : α → StateT (Journal × τ) (StateM σ) β} {f : α → StateT τ (StateM σ) β}
    (hx : Unrecorded x' x) (hf : ∀ a, Unrecorded (f' a) (f a)) :
    Unrecorded (x' >>= f') (x >>= f) := by
  intro moment
  rw [run_run_bind, hx moment]
  exact hf _ (moment.run x').2

/-- A computation that uses neither the journal nor the place for watchlists. -/
theorem of_run_eq {y : StateM σ α} (hx' : ∀ state, x'.run state = (fun a => (a, state)) <$> y)
    (hx : ∀ store, x.run store = (fun a => (a, store)) <$> y) : Unrecorded x' x := by
  intro moment
  rw [Moment.run, hx', hx]
  rfl

end Unrecorded

namespace Service

/-! ## Steps -/

/-- What a service can be asked to do, its place for watchlists included. -/
inductive Step where
  | firstPhase (strategy : Strategy) (tickers : List String)
  | secondPhase (strategy : Strategy)
  | fullScan (strategy : Strategy) (tickers : List String)
  | save (strategy : Int) (tickers : List String)
  | load (strategy : Int)

/-- The strategy that a step is about. -/
def Step.strategy : Step → Int
  | .firstPhase strategy _ | .secondPhase strategy | .fullScan strategy _ => strategy.id
  | .save strategy _ | .load strategy => strategy

/-- What a step gives. -/
inductive Reply where
  | saved (answer : Attempt Watchlist)
  | reported (answer : Attempt Report)
  | scanned (answer : Attempt (Watchlist × Report))
  | loaded (answer : Attempt (Option Watchlist))

/-- Makes a step. -/
def perform {m : Type → Type} [Monad m] (service : Service m) : Step → m Reply
  | .firstPhase strategy tickers => return .saved (← service.firstPhase strategy tickers)
  | .secondPhase strategy => return .reported (← service.secondPhase strategy)
  | .fullScan strategy tickers => return .scanned (← service.fullScan strategy tickers)
  | .save strategy tickers => return .saved (← service.keeper.save strategy tickers)
  | .load strategy => return .loaded (← service.keeper.load strategy)

variable {τ σ : Type} (service : Service (StateM σ)) (keeper : Keeper (StateT τ (StateM σ)))

/-- What a step gives, and the moment after it. -/
def proceed (moment : Moment τ σ) (step : Step) : Reply × Moment τ σ :=
  moment.run ((service.keeping keeper.recorded).perform step)

/-- What steps give, one after another. -/
def replies (moment : Moment τ σ) : List Step → List Reply
  | [] => []
  | step :: rest =>
    (service.proceed keeper moment step).1 :: replies (service.proceed keeper moment step).2 rest

/-- The moment after steps. -/
def reached (moment : Moment τ σ) (steps : List Step) : Moment τ σ :=
  steps.foldl (fun moment step => (service.proceed keeper moment step).2) moment

/-! ## The record is only beside the run -/

variable {service keeper}

theorem unrecorded_save (strategy : Int) (tickers : List String) :
    Unrecorded (keeper.recorded.save strategy tickers) (keeper.save strategy tickers) := by
  intro moment
  simp only [Moment.run, Keeper.recorded, StateT.run, bind, StateT.bind]
  rcases keeper.save strategy tickers moment.store moment.world with
    ⟨⟨answer, store⟩, world⟩
  cases answer <;> rfl

theorem unrecorded_load (strategy : Int) :
    Unrecorded (keeper.recorded.load strategy) (keeper.load strategy) := fun _ => rfl

theorem unrecorded_startTask :
    Unrecorded (service.keeping keeper.recorded).startTask (service.keeping keeper).startTask :=
  .of_run_eq (service.run_startTask_keeping keeper.recorded)
    (service.run_startTask_keeping keeper)

theorem unrecorded_firstScan (rules : Rules) (tickers : List String) :
    Unrecorded ((service.keeping keeper.recorded).firstScan rules tickers)
      ((service.keeping keeper).firstScan rules tickers) :=
  .of_run_eq (fun state => service.run_firstScan_keeping keeper.recorded state rules tickers)
    (fun store => service.run_firstScan_keeping keeper store rules tickers)

theorem unrecorded_secondScan (rules : Rules) (watchlist : List String) :
    Unrecorded ((service.keeping keeper.recorded).secondScan rules watchlist)
      ((service.keeping keeper).secondScan rules watchlist) :=
  .of_run_eq (fun state => service.run_secondScan_keeping keeper.recorded state rules watchlist)
    (fun store => service.run_secondScan_keeping keeper store rules watchlist)

theorem unrecorded_firstPhase (strategy : Strategy) (tickers : List String) :
    Unrecorded ((service.keeping keeper.recorded).firstPhase strategy tickers)
      ((service.keeping keeper).firstPhase strategy tickers) := by
  unfold firstPhase
  apply Unrecorded.bind (unrecorded_firstScan strategy.rules tickers)
  intro passed
  cases passed with
  | error stop => exact .pure _
  | ok passed =>
      exact .bind unrecorded_startTask fun _ =>
        .bind (unrecorded_save strategy.id passed) fun _ => .pure _

theorem unrecorded_secondPhase (strategy : Strategy) :
    Unrecorded ((service.keeping keeper.recorded).secondPhase strategy)
      ((service.keeping keeper).secondPhase strategy) := by
  unfold secondPhase
  apply Unrecorded.bind unrecorded_startTask
  intro task
  apply Unrecorded.bind (unrecorded_load strategy.id)
  intro found
  rcases settleTask task "watchlist store" found with stop | list
  · exact .pure _
  · cases list with
    | none => exact .pure _
    | some list =>
        exact .bind (unrecorded_secondScan strategy.rules list.tickers) fun _ => .pure _

theorem unrecorded_fullScan (strategy : Strategy) (tickers : List String) :
    Unrecorded ((service.keeping keeper.recorded).fullScan strategy tickers)
      ((service.keeping keeper).fullScan strategy tickers) := by
  unfold fullScan
  apply Unrecorded.bind (unrecorded_firstPhase strategy tickers)
  intro saved
  cases saved with
  | error stop => exact .pure _
  | ok list => exact .bind (unrecorded_secondPhase strategy) fun _ => .pure _

theorem unrecorded_perform (step : Step) :
    Unrecorded ((service.keeping keeper.recorded).perform step)
      ((service.keeping keeper).perform step) := by
  cases step with
  | firstPhase strategy tickers =>
      exact .bind (unrecorded_firstPhase strategy tickers) fun _ => .pure _
  | secondPhase strategy => exact .bind (unrecorded_secondPhase strategy) fun _ => .pure _
  | fullScan strategy tickers =>
      exact .bind (unrecorded_fullScan strategy tickers) fun _ => .pure _
  | save strategy tickers => exact .bind (unrecorded_save strategy tickers) fun _ => .pure _
  | load strategy => exact .bind (unrecorded_load strategy) fun _ => .pure _

/-- Without the record the same steps give the same replies and lead to the same states. -/
theorem run_mapM_perform (moment : Moment τ σ) (steps : List Step) :
    ((steps.mapM (service.keeping keeper).perform).run moment.store).run moment.world =
      ((service.replies keeper moment steps, (service.reached keeper moment steps).store),
        (service.reached keeper moment steps).world) := by
  induction steps generalizing moment with
  | nil => rfl
  | cons step rest ih =>
      rw [List.mapM_cons, run_run_bind, unrecorded_perform step moment, run_run_bind]
      have hrest := ih (service.proceed keeper moment step).2
      unfold proceed at hrest
      rw [hrest]
      rfl

end Service

end Screener
