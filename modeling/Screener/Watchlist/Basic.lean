import Screener.Failure

/-!
# Watchlists

A watchlist holds the tickers that have passed the first scan of a strategy.  Saving one replaces
the strategy's earlier watchlist as a whole and gives it the next version.
-/

namespace Screener

/-- The tickers that a strategy watches. -/
structure Watchlist where
  strategy : Int
  tickers : List String
  /-- One for the first watchlist of a strategy, and one more with each save. -/
  version : Nat
  deriving Repr, DecidableEq

/-- A place where watchlists are kept: how to save one and how to load the latest. -/
structure Keeper (m : Type → Type) where
  save : Int → List String → m (Attempt Watchlist)
  load : Int → m (Attempt (Option Watchlist))

/-- The same place for a larger computation. -/
def Keeper.lift {m : Type → Type} [Monad m] {σ : Type} (keeper : Keeper m) :
    Keeper (StateT σ m) where
  save strategy tickers := StateT.lift (keeper.save strategy tickers)
  load strategy := StateT.lift (keeper.load strategy)

/-- An entry that has taken the place of the one with its key is found under the key; under another
key the same is found as before. -/
theorem find?_replace {α : Type} (key : α → Int) (entry : α) (entries : List α) (k : Int) :
    (entry :: entries.filter fun other => key other != key entry).find?
        (fun other => key other = k) =
      if k = key entry then some entry else entries.find? fun other => key other = k := by
  by_cases h : k = key entry
  · simp [h]
  · have h' : ¬ key entry = k := fun e => h e.symm
    rw [List.find?_cons_of_neg (by simpa using h'), if_neg h, List.find?_filter]
    congr 1
    funext other
    by_cases hother : key other = k
    · simp [hother, h]
    · simp [hother]

/-- The watchlists of one run of the program, one for each strategy. -/
structure Shelf where
  lists : List Watchlist := []
  deriving Repr, DecidableEq

namespace Shelf

/-- The shelf without watchlists. -/
def empty : Shelf := {}

/-- The latest watchlist of a strategy. -/
def load (shelf : Shelf) (strategy : Int) : Option Watchlist :=
  shelf.lists.find? fun list => list.strategy = strategy

/-- The watchlist that a save makes. -/
def next (shelf : Shelf) (strategy : Int) (tickers : List String) : Watchlist :=
  ⟨strategy, tickers, match shelf.load strategy with
    | some list => list.version + 1
    | none => 1⟩

/-- Puts a watchlist in the place of the strategy's earlier one. -/
def put (shelf : Shelf) (list : Watchlist) : Shelf :=
  ⟨list :: shelf.lists.filter fun other => other.strategy != list.strategy⟩

/-- Saves the tickers of a strategy. -/
def save (shelf : Shelf) (strategy : Int) (tickers : List String) : Watchlist × Shelf :=
  let list := shelf.next strategy tickers
  (list, shelf.put list)

/-- Keeps watchlists on a shelf that is part of the state. -/
def keeper {m : Type → Type} [Monad m] : Keeper (StateT Shelf m) where
  save strategy tickers := modifyGet fun shelf =>
    let (list, shelf) := shelf.save strategy tickers
    (.ok list, shelf)
  load strategy := return .ok ((← get).load strategy)

@[simp] theorem load_empty (strategy : Int) : empty.load strategy = none := rfl

/-- After a watchlist has been put, it is the one of its strategy; all others are as before. -/
theorem load_put (shelf : Shelf) (list : Watchlist) (strategy : Int) :
    (shelf.put list).load strategy =
      if strategy = list.strategy then some list else shelf.load strategy :=
  find?_replace Watchlist.strategy list shelf.lists strategy

end Shelf

end Screener
