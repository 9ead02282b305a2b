import Screener.Proofs.Scan.Recording

/-!
# What a journal says of a step

What a service answers, and which saves are recorded, can be said from the journal of the saves
and from what the scans give (`Service.account`).  If the service's keeper keeps journals, every
step is as the journal says (`Service.follows_perform`), so that what is said here of accounts
holds of steps: a step records at most one list, and that for its own strategy
(`Service.account_journal`).
-/

namespace Screener

namespace Service

variable {σ : Type}

/-! ## What the journal says of a step -/

/-- The world after a first scan of a strategy and the start of the task that saves what has passed. -/
def worldAtSave (service : Service (StateM σ)) (world : σ) (strategy : Strategy)
    (tickers : List String) : σ :=
  (service.startTask.run ((service.firstScan strategy.rules tickers).run world).2).2

/-- What the first phase gives by the journal, with the journal and the market after it. -/
def accountOfFirst (service : Service (StateM σ)) (journal : Journal) (world : σ)
    (strategy : Strategy) (tickers : List String) : Attempt Watchlist × Journal × σ :=
  match (service.firstScan strategy.rules tickers).run world with
  | (.error stop, world) => (.error stop, journal, world)
  | (.ok passed, world) =>
    (.ok (journal.next strategy.id passed), journal.record strategy.id passed,
      (service.startTask.run world).2)

/-- What the second phase gives by the journal, with the journal and the market after it. -/
def accountOfSecond (service : Service (StateM σ)) (journal : Journal) (world : σ)
    (strategy : Strategy) : Attempt Report × Journal × σ :=
  let (report, world) := (service.reportOn strategy (journal.latest strategy.id)).run world
  (report, journal, world)

/-- What a full scan gives by the journal, with the journal and the market after it. -/
def accountOfFull (service : Service (StateM σ)) (journal : Journal) (world : σ)
    (strategy : Strategy) (tickers : List String) : Attempt (Watchlist × Report) × Journal × σ :=
  match service.accountOfFirst journal world strategy tickers with
  | (.error stop, journal, world) => (.error stop, journal, world)
  | (.ok list, journal, world) =>
    let (report, journal, world) := service.accountOfSecond journal world strategy
    (report.map (list, ·), journal, world)

/-- What a step gives by the journal, with the journal and the market after it. -/
def account (service : Service (StateM σ)) (journal : Journal) (world : σ) :
    Step → Reply × Journal × σ
  | .firstPhase strategy tickers =>
    (service.accountOfFirst journal world strategy tickers).map .saved id
  | .secondPhase strategy => (service.accountOfSecond journal world strategy).map .reported id
  | .fullScan strategy tickers =>
    (service.accountOfFull journal world strategy tickers).map .scanned id
  | .save strategy tickers =>
    (.saved (.ok (journal.next strategy tickers)), journal.record strategy tickers, world)
  | .load strategy => (.loaded (.ok (journal.latest strategy)), journal, world)

end Service

/-- A computation gives what an account says, and leads to a moment of which it says the journal and
the state of the market. -/
def Moment.Follows {τ σ α : Type} (moment : Moment τ σ) (holds : Journal → τ → Prop)
    (x : StateT (Journal × τ) (StateM σ) α) (account : α × Journal × σ) : Prop :=
  ∃ store, holds account.2.1 store ∧
    moment.run x = (account.1, ⟨account.2.1, store, account.2.2⟩)

namespace Moment.Follows

variable {τ σ α β : Type} {moment : Moment τ σ} {holds : Journal → τ → Prop}
  {x : StateT (Journal × τ) (StateM σ) α}

theorem pure (hholds : holds moment.journal moment.store) (a : α) :
    moment.Follows holds (Pure.pure a) (a, moment.journal, moment.world) :=
  ⟨moment.store, hholds, rfl⟩

theorem bind {f : α → StateT (Journal × τ) (StateM σ) β} {account : α × Journal × σ}
    {next : β × Journal × σ} (hx : moment.Follows holds x account)
    (hf : ∀ store, holds account.2.1 store →
      Follows ⟨account.2.1, store, account.2.2⟩ holds (f account.1) next) :
    moment.Follows holds (x >>= f) next := by
  obtain ⟨store, hholds, hrun⟩ := hx
  obtain ⟨last, hlast, hnext⟩ := hf store hholds
  refine ⟨last, hlast, ?_⟩
  rw [Moment.run_bind, hrun]
  exact hnext

theorem map {f : α → β} {account : α × Journal × σ} (hx : moment.Follows holds x account) :
    moment.Follows holds (do return f (← x)) (account.map f id) :=
  hx.bind fun _ hholds => .pure hholds _

/-- A computation that uses neither the journal nor the place for watchlists. -/
theorem of_run_eq {y : StateM σ α} (hholds : holds moment.journal moment.store)
    (hx : ∀ state, x.run state = (fun a => (a, state)) <$> y) :
    moment.Follows holds x ((y.run moment.world).1, moment.journal, (y.run moment.world).2) := by
  refine ⟨moment.store, hholds, ?_⟩
  rw [Moment.run, hx]
  rfl

end Moment.Follows

namespace Service

variable {τ σ : Type} {service : Service (StateM σ)} {keeper : Keeper (StateT τ (StateM σ))}
  {holds : Journal → τ → Prop} {moment : Moment τ σ}

theorem follows_save (hkeeps : keeper.Keeps holds) (hholds : holds moment.journal moment.store)
    (strategy : Int) (tickers : List String) :
    moment.Follows holds (keeper.recorded.save strategy tickers)
      (.ok (moment.journal.next strategy tickers), moment.journal.record strategy tickers,
        moment.world) := by
  have hrecords : Keeper.Records holds moment.journal (moment.journal, moment.store) :=
    ⟨rfl, hholds⟩
  obtain ⟨⟨_, store⟩, ⟨rfl, hholds'⟩, hsave⟩ := hkeeps.recorded.save hrecords strategy tickers
  refine ⟨store, hholds', ?_⟩
  rw [Moment.run, hsave]
  rfl

theorem follows_load (hkeeps : keeper.Keeps holds) (hholds : holds moment.journal moment.store)
    (strategy : Int) :
    moment.Follows holds (keeper.recorded.load strategy)
      (.ok (moment.journal.latest strategy), moment.journal, moment.world) := by
  have hrecords : Keeper.Records holds moment.journal (moment.journal, moment.store) :=
    ⟨rfl, hholds⟩
  have hload := hkeeps.recorded.load hrecords strategy
  refine ⟨moment.store, hholds, ?_⟩
  rw [Moment.run, hload]
  rfl

theorem follows_startTask (hholds : holds moment.journal moment.store) :
    moment.Follows holds (service.keeping keeper.recorded).startTask
      ((service.startTask.run moment.world).1, moment.journal,
        (service.startTask.run moment.world).2) :=
  .of_run_eq hholds (service.run_startTask_keeping keeper.recorded)

theorem follows_firstPhase (hkeeps : keeper.Keeps holds)
    (hholds : holds moment.journal moment.store) (strategy : Strategy) (tickers : List String) :
    moment.Follows holds ((service.keeping keeper.recorded).firstPhase strategy tickers)
      (service.accountOfFirst moment.journal moment.world strategy tickers) := by
  unfold firstPhase accountOfFirst
  apply Moment.Follows.bind (.of_run_eq hholds
    fun state => service.run_firstScan_keeping keeper.recorded state strategy.rules tickers)
  intro store hholds'
  rcases (service.firstScan strategy.rules tickers).run moment.world with ⟨stop | passed, world⟩
  · exact .pure hholds' _
  · exact .bind (follows_startTask hholds') fun _ hstarted =>
      .bind (follows_save hkeeps hstarted strategy.id passed) fun _ hsaved => .pure hsaved _

theorem follows_secondPhase (hkeeps : keeper.Keeps holds)
    (hholds : holds moment.journal moment.store) (strategy : Strategy) :
    moment.Follows holds ((service.keeping keeper.recorded).secondPhase strategy)
      (service.accountOfSecond moment.journal moment.world strategy) := by
  unfold secondPhase accountOfSecond
  apply Moment.Follows.bind (follows_startTask hholds)
  intro started hstarted
  apply Moment.Follows.bind (follows_load hkeeps hstarted strategy.id)
  intro store hholds'
  unfold reportOn
  cases moment.journal.latest strategy.id with
  | none => exact .pure hholds' _
  | some list =>
      exact (Moment.Follows.of_run_eq hholds' fun state =>
        service.run_secondScan_keeping keeper.recorded state strategy.rules list.tickers).map

theorem follows_fullScan (hkeeps : keeper.Keeps holds)
    (hholds : holds moment.journal moment.store) (strategy : Strategy) (tickers : List String) :
    moment.Follows holds ((service.keeping keeper.recorded).fullScan strategy tickers)
      (service.accountOfFull moment.journal moment.world strategy tickers) := by
  unfold fullScan accountOfFull
  apply Moment.Follows.bind (follows_firstPhase hkeeps hholds strategy tickers)
  intro store
  rcases service.accountOfFirst moment.journal moment.world strategy tickers with
    ⟨stop | list, journal, world⟩
  · intro hholds'
    exact .pure hholds' _
  · intro hholds'
    exact (follows_secondPhase hkeeps hholds' strategy).map

/-- Every step is as the journal says. -/
theorem follows_perform (hkeeps : keeper.Keeps holds) (hholds : holds moment.journal moment.store)
    (step : Step) :
    moment.Follows holds ((service.keeping keeper.recorded).perform step)
      (service.account moment.journal moment.world step) := by
  cases step with
  | firstPhase strategy tickers => exact (follows_firstPhase hkeeps hholds strategy tickers).map
  | secondPhase strategy => exact (follows_secondPhase hkeeps hholds strategy).map
  | fullScan strategy tickers => exact (follows_fullScan hkeeps hholds strategy tickers).map
  | save strategy tickers => exact (follows_save hkeeps hholds strategy tickers).map
  | load strategy => exact (follows_load hkeeps hholds strategy).map

/-! ## Steps and the journal -/

theorem accountOfFirst_ok {journal : Journal} {world : σ} {strategy : Strategy}
    {tickers passed : List String}
    (hscan : ((service.firstScan strategy.rules tickers).run world).1 = .ok passed) :
    service.accountOfFirst journal world strategy tickers =
      (.ok (journal.next strategy.id passed), journal.record strategy.id passed,
        service.worldAtSave world strategy tickers) := by
  have hrun : (service.firstScan strategy.rules tickers).run world = (.ok passed, _) :=
    Prod.ext hscan rfl
  rw [accountOfFirst, worldAtSave, hrun]

theorem accountOfFirst_error {journal : Journal} {world : σ} {strategy : Strategy}
    {tickers : List String} {stop : Stop}
    (hscan : ((service.firstScan strategy.rules tickers).run world).1 = .error stop) :
    service.accountOfFirst journal world strategy tickers =
      (.error stop, journal, ((service.firstScan strategy.rules tickers).run world).2) := by
  have hrun : (service.firstScan strategy.rules tickers).run world = (.error stop, _) :=
    Prod.ext hscan rfl
  rw [accountOfFirst, hrun]

theorem accountOfFirst_journal (service : Service (StateM σ)) (journal : Journal) (world : σ)
    (strategy : Strategy) (tickers : List String) :
    (service.accountOfFirst journal world strategy tickers).2.1 = journal ∨
      ∃ passed, (service.accountOfFirst journal world strategy tickers).2.1 =
        journal.record strategy.id passed := by
  unfold accountOfFirst
  rcases (service.firstScan strategy.rules tickers).run world with ⟨stop | passed, world⟩
  · exact .inl rfl
  · exact .inr ⟨passed, rfl⟩

theorem accountOfFull_journal (service : Service (StateM σ)) (journal : Journal) (world : σ)
    (strategy : Strategy) (tickers : List String) :
    (service.accountOfFull journal world strategy tickers).2.1 =
      (service.accountOfFirst journal world strategy tickers).2.1 := by
  unfold accountOfFull
  rcases service.accountOfFirst journal world strategy tickers with ⟨stop | list, journal, world⟩
  · rfl
  · rfl

/-- A step records at most one list, for its own strategy. -/
theorem account_journal (service : Service (StateM σ)) (journal : Journal) (world : σ)
    (step : Step) :
    (service.account journal world step).2.1 = journal ∨ ∃ tickers,
      (service.account journal world step).2.1 = journal.record step.strategy tickers := by
  cases step with
  | firstPhase strategy tickers =>
      exact service.accountOfFirst_journal journal world strategy tickers
  | secondPhase strategy => exact .inl rfl
  | fullScan strategy tickers =>
      show (service.accountOfFull journal world strategy tickers).2.1 = journal ∨ _
      have hfirst := service.accountOfFirst_journal journal world strategy tickers
      rw [← accountOfFull_journal] at hfirst
      exact hfirst
  | save strategy tickers => exact .inr ⟨tickers, rfl⟩
  | load strategy => exact .inl rfl

theorem latest_account_of_ne {journal : Journal} {world : σ} {step : Step} {other : Int}
    (hother : other ≠ step.strategy) :
    (service.account journal world step).2.1.latest other = journal.latest other := by
  rcases service.account_journal journal world step with hsame | ⟨tickers, hrecord⟩
  · rw [hsame]
  · rw [hrecord, Journal.latest_record, if_neg hother]

theorem listsOf_prefix_account (service : Service (StateM σ)) (journal : Journal) (world : σ)
    (step : Step) (strategy : Int) :
    journal.listsOf strategy <+: (service.account journal world step).2.1.listsOf strategy := by
  rcases service.account_journal journal world step with hsame | ⟨tickers, hrecord⟩
  · simp [hsame]
  · rw [hrecord, Journal.listsOf_record]
    by_cases h : strategy = step.strategy
    · simp [h]
    · simp [h]

end Service

end Screener
