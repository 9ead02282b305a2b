import Screener.Watchlist.Basic

/-!
# Journals of saves

A journal lists all saves that have been made, and it says everything that a place for watchlists
has to remember: the watchlist of a strategy is the list of its last save, and its version is the
number of its saves (`Journal.latest`).

A keeper keeps journals (`Keeper.Keeps`) if it answers every save and every load as the journal of
its saves does.  One request is enough to see that; any number of requests is then answered as the
journal says (`Keeper.Keeps.answers`).  The shelf keeps journals.
-/

namespace Screener

/-- A save: the strategy and its tickers. -/
structure Saved where
  strategy : Int
  tickers : List String
  deriving Repr, DecidableEq

/-- Saves, earliest first. -/
structure Journal where
  saves : List Saved := []
  deriving Repr, DecidableEq

namespace Journal

/-- The journal without saves. -/
def empty : Journal := {}

/-- Adds a save. -/
def record (journal : Journal) (strategy : Int) (tickers : List String) : Journal :=
  ⟨journal.saves ++ [⟨strategy, tickers⟩]⟩

/-- The lists that have been saved for a strategy, earliest first. -/
def listsOf (journal : Journal) (strategy : Int) : List (List String) :=
  (journal.saves.filter fun saved => saved.strategy = strategy).map Saved.tickers

/-- The watchlist of a strategy: its last list, with the number of its lists as version. -/
def latest (journal : Journal) (strategy : Int) : Option Watchlist :=
  (journal.listsOf strategy).getLast?.map fun tickers =>
    ⟨strategy, tickers, (journal.listsOf strategy).length⟩

/-- The watchlist that a save makes. -/
def next (journal : Journal) (strategy : Int) (tickers : List String) : Watchlist :=
  ⟨strategy, tickers, (journal.listsOf strategy).length + 1⟩

/-- The list that has a version of a strategy. -/
def listAt (journal : Journal) (strategy : Int) (version : Nat) : List String :=
  (journal.listsOf strategy)[version - 1]?.getD []

@[simp] theorem listsOf_empty (strategy : Int) : empty.listsOf strategy = [] := rfl

@[simp] theorem latest_empty (strategy : Int) : empty.latest strategy = none := rfl

theorem listsOf_record (journal : Journal) (strategy other : Int) (tickers : List String) :
    (journal.record strategy tickers).listsOf other =
      if other = strategy then journal.listsOf other ++ [tickers] else journal.listsOf other := by
  by_cases h : other = strategy
  · simp [listsOf, record, h]
  · have h' : strategy ≠ other := fun heq => h heq.symm
    simp [listsOf, record, h, h']

/-- A save replaces the watchlist of its strategy and leaves those of other strategies. -/
theorem latest_record (journal : Journal) (strategy other : Int) (tickers : List String) :
    (journal.record strategy tickers).latest other =
      if other = strategy then some (journal.next strategy tickers) else journal.latest other := by
  by_cases h : other = strategy
  · simp [latest, next, listsOf_record, h]
  · simp [latest, listsOf_record, h]

theorem latest_eq_none_iff (journal : Journal) (strategy : Int) :
    journal.latest strategy = none ↔ journal.listsOf strategy = [] := by
  simp [latest]

theorem latest_record_self (journal : Journal) (strategy : Int) (tickers : List String) :
    (journal.record strategy tickers).latest strategy = some (journal.next strategy tickers) := by
  rw [latest_record, if_pos rfl]

/-- A list keeps its version while lists are added. -/
theorem eq_listAt_of_latest {journal later : Journal} {strategy : Int} {list : Watchlist}
    (hlater : journal.listsOf strategy <+: later.listsOf strategy)
    (hlatest : journal.latest strategy = some list) :
    list = ⟨strategy, later.listAt strategy list.version, list.version⟩ := by
  obtain ⟨added, hadded⟩ := hlater
  obtain ⟨tickers, htickers, rfl⟩ := Option.map_eq_some_iff.mp hlatest
  rw [List.getLast?_eq_getElem?] at htickers
  have hlt := (List.getElem?_eq_some_iff.mp htickers).1
  rw [listAt, ← hadded, List.getElem?_append_left hlt, htickers]
  rfl

/-- The next watchlist is one version above the latest, or the first. -/
theorem version_next (journal : Journal) (strategy : Int) (tickers : List String) :
    (journal.next strategy tickers).version =
      (journal.latest strategy).elim 1 fun list => list.version + 1 := by
  cases hlatest : journal.latest strategy with
  | none => simp [next, (latest_eq_none_iff journal strategy).mp hlatest]
  | some list =>
      obtain ⟨last, -, rfl⟩ := Option.map_eq_some_iff.mp hlatest
      rfl

end Journal

/-! ## Requests -/

namespace Keeper

/-- What a place for watchlists can be asked to do. -/
inductive Request where
  | save (strategy : Int) (tickers : List String)
  | load (strategy : Int)
  deriving Repr, DecidableEq

/-- Answers a request with the watchlist that has been saved or loaded. -/
def answer {m : Type → Type} [Monad m] (keeper : Keeper m) :
    Request → m (Attempt (Option Watchlist))
  | .save strategy tickers => return (← keeper.save strategy tickers).map some
  | .load strategy => keeper.load strategy

end Keeper

namespace Journal

open Keeper (Request)

/-- What a journal answers to a request. -/
def reply (journal : Journal) : Request → Option Watchlist
  | .save strategy tickers => some (journal.next strategy tickers)
  | .load strategy => journal.latest strategy

/-- The journal after a request. -/
def after (journal : Journal) : Request → Journal
  | .save strategy tickers => journal.record strategy tickers
  | .load _ => journal

/-- What a journal answers to requests that are made one after another. -/
def replies (journal : Journal) : List Request → List (Option Watchlist)
  | [] => []
  | request :: rest => journal.reply request :: (journal.after request).replies rest

end Journal

/-! ## Keeping journals -/

/-- A keeper answers as the journal of its saves does.  `holds` says which journals a state of the
keeper stands for. -/
structure Keeper.Keeps {m : Type → Type} [Monad m] {τ : Type} (keeper : Keeper (StateT τ m))
    (holds : Journal → τ → Prop) : Prop where
  save {journal : Journal} {store : τ} (hholds : holds journal store) (strategy : Int)
    (tickers : List String) : ∃ store', holds (journal.record strategy tickers) store' ∧
      (keeper.save strategy tickers).run store =
        pure (.ok (journal.next strategy tickers), store')
  load {journal : Journal} {store : τ} (hholds : holds journal store) (strategy : Int) :
    (keeper.load strategy).run store = pure (.ok (journal.latest strategy), store)

namespace Keeper.Keeps

variable {m : Type → Type} [Monad m] [LawfulMonad m] {τ : Type} {keeper : Keeper (StateT τ m)}
  {holds : Journal → τ → Prop}

theorem answer (hkeeps : keeper.Keeps holds) {journal : Journal} {store : τ}
    (hholds : holds journal store) (request : Request) :
    ∃ store', holds (journal.after request) store' ∧
      (keeper.answer request).run store = pure (.ok (journal.reply request), store') := by
  cases request with
  | save strategy tickers =>
      obtain ⟨store', hholds', hsave⟩ := hkeeps.save hholds strategy tickers
      refine ⟨store', hholds', ?_⟩
      simp [Keeper.answer, hsave, Except.map, Journal.reply]
  | load strategy => exact ⟨store, hholds, hkeeps.load hholds strategy⟩

/-- Any requests, one after another, are answered as the journal answers them. -/
theorem answers (hkeeps : keeper.Keeps holds) {journal : Journal} {store : τ}
    (hholds : holds journal store) (requests : List Request) :
    ∃ store', holds (requests.foldl Journal.after journal) store' ∧
      (requests.mapM keeper.answer).run store =
        pure ((journal.replies requests).map Except.ok, store') := by
  induction requests generalizing journal store with
  | nil => exact ⟨store, hholds, rfl⟩
  | cons request rest ih =>
      obtain ⟨store', hholds', hanswer⟩ := hkeeps.answer hholds request
      obtain ⟨last, hlast, hrest⟩ := ih hholds'
      refine ⟨last, hlast, ?_⟩
      simp [List.mapM_cons, hanswer, hrest, Journal.replies]

end Keeper.Keeps

/-! ## The shelf -/

namespace Shelf

/-- The shelf has the latest watchlist of every strategy. -/
def Holds (journal : Journal) (shelf : Shelf) : Prop :=
  ∀ strategy, shelf.load strategy = journal.latest strategy

theorem holds_empty : Holds .empty .empty := fun _ => rfl

theorem Holds.next_eq {journal : Journal} {shelf : Shelf} (hholds : Holds journal shelf)
    (strategy : Int) (tickers : List String) :
    shelf.next strategy tickers = journal.next strategy tickers := by
  have hversion := journal.version_next strategy tickers
  rw [← hholds strategy] at hversion
  rw [next]
  cases hlist : shelf.load strategy with
  | none =>
      rw [hlist] at hversion
      exact congrArg (Watchlist.mk strategy tickers) hversion.symm
  | some list =>
      rw [hlist] at hversion
      exact congrArg (Watchlist.mk strategy tickers) hversion.symm

theorem keeper_keeps {m : Type → Type} [Monad m] [LawfulMonad m] :
    (keeper : Keeper (StateT Shelf m)).Keeps Holds where
  save {journal shelf} hholds strategy tickers := by
    have hnext := hholds.next_eq strategy tickers
    refine ⟨shelf.put (journal.next strategy tickers), fun other => ?_, ?_⟩
    · rw [load_put, journal.latest_record, hholds other]
      rfl
    · simp [keeper, Shelf.save, hnext]
  load {journal shelf} hholds strategy := by
    simp [keeper, hholds strategy]

end Shelf

end Screener
