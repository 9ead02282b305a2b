import Screener.Proofs.Watchlist.Journal
import Screener.Watchlist.Tables

/-!
# Tables are like the shelf

The second table keeps the list of a strategy as rows with the positions 0, 1, 2, … and no others
(`Tables.Holds`).  A save deletes all rows of its strategy before it adds new ones, so that a longer
list leaves nothing behind and no position is taken when a row is added (`Tables.insertTickers_eq`).
The rows come out in the order of their positions, which is the order in which they were saved.

So the tables keep journals, as the shelf does, and whoever asks cannot tell the two apart
(`Tables.answers_eq_shelf`).
-/

namespace Screener.Tables

/-! ## The rows of a list -/

/-- The rows of a list whose first ticker has the given position. -/
def numbered (strategy : Int) : Nat → List String → List TickerRow
  | _, [] => []
  | position, ticker :: rest =>
    ⟨strategy, position, ticker⟩ :: numbered strategy (position + 1) rest

/-- The rows of the second table for a strategy. -/
def rowsOf (tables : Tables) (strategy : Int) : List TickerRow :=
  tables.tickers.filter fun row => row.strategy = strategy

variable {strategy : Int}

theorem mem_numbered {position : Nat} {tickers : List String} {row : TickerRow}
    (hmem : row ∈ numbered strategy position tickers) :
    row.strategy = strategy ∧ position ≤ row.position := by
  induction tickers generalizing position with
  | nil => simp [numbered] at hmem
  | cons ticker rest ih =>
      rcases List.mem_cons.mp hmem with rfl | hrest
      · exact ⟨rfl, Nat.le_refl position⟩
      · obtain ⟨hstrategy, hposition⟩ := ih hrest
        exact ⟨hstrategy, by omega⟩

theorem map_ticker_numbered (position : Nat) (tickers : List String) :
    (numbered strategy position tickers).map TickerRow.ticker = tickers := by
  induction tickers generalizing position with
  | nil => rfl
  | cons ticker rest ih => simp [numbered, ih]

theorem pairwise_numbered (position : Nat) (tickers : List String) :
    (numbered strategy position tickers).Pairwise fun a b =>
      decide (a.position ≤ b.position) = true := by
  induction tickers generalizing position with
  | nil => exact .nil
  | cons ticker rest ih =>
      refine .cons (fun row hrow => ?_) (ih (position + 1))
      have hposition := (mem_numbered hrow).2
      simp only [decide_eq_true_eq]
      omega

theorem filter_numbered (other : Int) (position : Nat) (tickers : List String) :
    (numbered strategy position tickers).filter (fun row => row.strategy = other) =
      if other = strategy then numbered strategy position tickers else [] := by
  by_cases h : other = strategy
  · rw [if_pos h, List.filter_eq_self]
    intro row hrow
    simp [(mem_numbered hrow).1, h]
  · rw [if_neg h, List.filter_eq_nil_iff]
    intro row hrow
    have hne : strategy ≠ other := fun heq => h heq.symm
    simp [(mem_numbered hrow).1, hne]

/-! ## What the statements of a save do -/

/-- No position from `position` on is taken, so that no row is refused. -/
theorem insertTickers_eq {tables : Tables} {position : Nat}
    (hfree : ∀ row ∈ tables.tickers, row.strategy = strategy → row.position < position)
    (tickers : List String) :
    tables.insertTickers strategy position tickers =
      .ok { tables with tickers := tables.tickers ++ numbered strategy position tickers } := by
  induction tickers generalizing tables position with
  | nil => simp [insertTickers, numbered]
  | cons ticker rest ih =>
      have hnone : tables.tickers.any (fun other =>
          other.strategy = strategy && other.position = position) = false := by
        rw [List.any_eq_false]
        intro row hrow htaken
        simp only [Bool.and_eq_true, decide_eq_true_eq] at htaken
        have hlt := hfree row hrow htaken.1
        omega
      have hinsert : tables.insertTicker ⟨strategy, position, ticker⟩ =
          .ok { tables with tickers := tables.tickers ++ [⟨strategy, position, ticker⟩] } := by
        simp [insertTicker, hnone]
      -- the new row takes its own position and leaves the later ones free
      have hfree' : ∀ row ∈ tables.tickers ++ [⟨strategy, position, ticker⟩],
          row.strategy = strategy → row.position < position + 1 := by
        intro row hrow hstrategy
        rcases List.mem_append.mp hrow with hrow | hrow
        · have hlt := hfree row hrow hstrategy
          omega
        · obtain rfl := List.mem_singleton.mp hrow
          exact Nat.lt_succ_self position
      have hrest := @ih { tables with
        tickers := tables.tickers ++ [⟨strategy, position, ticker⟩] } (position + 1) hfree'
      simp only [insertTickers, hinsert, numbered]
      rw [← List.append_cons] at hrest
      exact hrest

theorem version?_putVersion (tables : Tables) (row : VersionRow) (other : Int) :
    (tables.putVersion row).version? other =
      if other = row.strategy then some row.version else tables.version? other := by
  have hfind := find?_replace VersionRow.strategy row tables.versions other
  rw [version?, putVersion, hfind]
  by_cases h : other = row.strategy <;> simp [h, version?]

theorem rowsOf_deleteTickers (tables : Tables) (strategy other : Int) :
    (tables.deleteTickers strategy).rowsOf other =
      if other = strategy then [] else tables.rowsOf other := by
  rw [rowsOf, deleteTickers, List.filter_filter]
  by_cases h : other = strategy
  · rw [if_pos h, List.filter_eq_nil_iff]
    intro row _
    simp [h]
  · rw [if_neg h, rowsOf]
    refine List.filter_congr fun row _ => ?_
    by_cases hrow : row.strategy = other <;> simp [hrow, h]

/-- The version that the next save of a strategy gets. -/
def nextVersion (tables : Tables) (strategy : Int) : Nat :=
  (tables.version? strategy).elim 1 (· + 1)

/-- The tables before a save adds its rows. -/
def cleared (tables : Tables) (strategy : Int) : Tables :=
  (tables.putVersion ⟨strategy, tables.nextVersion strategy⟩).deleteTickers strategy

/-- The tables after a save. -/
def afterSave (tables : Tables) (strategy : Int) (tickers : List String) : Tables :=
  { tables.cleared strategy with
    tickers := (tables.cleared strategy).tickers ++ numbered strategy 0 tickers }

/-- A save fails at no statement. -/
theorem save_eq (tables : Tables) (strategy : Int) (tickers : List String) :
    tables.save strategy tickers =
      .ok (⟨strategy, tickers, tables.nextVersion strategy⟩, tables.afterSave strategy tickers) := by
  have hfree : ∀ row ∈ (tables.cleared strategy).tickers,
      row.strategy = strategy → row.position < 0 := by
    intro row hrow hstrategy
    have hkept := (List.mem_filter.mp hrow).2
    simp [hstrategy] at hkept
  have hsave : tables.save strategy tickers = (do
      let filled ← (tables.cleared strategy).insertTickers strategy 0 tickers
      return (⟨strategy, tickers, tables.nextVersion strategy⟩, filled)) := by
    rw [save, cleared, nextVersion]
    cases tables.version? strategy <;> rfl
  rw [hsave, insertTickers_eq hfree]
  rfl

theorem version?_afterSave (tables : Tables) (strategy other : Int) (tickers : List String) :
    (tables.afterSave strategy tickers).version? other =
      if other = strategy then some (tables.nextVersion strategy) else tables.version? other :=
  tables.version?_putVersion _ other

theorem rowsOf_afterSave (tables : Tables) (strategy other : Int) (tickers : List String) :
    (tables.afterSave strategy tickers).rowsOf other =
      if other = strategy then numbered strategy 0 tickers else tables.rowsOf other := by
  have hcleared : (tables.cleared strategy).rowsOf other =
      if other = strategy then [] else tables.rowsOf other := rowsOf_deleteTickers _ strategy other
  have happend : (tables.afterSave strategy tickers).rowsOf other =
      (tables.cleared strategy).rowsOf other ++
        (numbered strategy 0 tickers).filter fun row => row.strategy = other :=
    List.filter_append _ _
  rw [happend, hcleared, filter_numbered]
  by_cases h : other = strategy <;> simp [h]

/-! ## Tables keep journals -/

/-- The first table has the latest version of every strategy, and the second one the rows of its
latest list and no others. -/
structure Holds (journal : Journal) (tables : Tables) : Prop where
  version (strategy : Int) :
    tables.version? strategy = (journal.latest strategy).map Watchlist.version
  rows (strategy : Int) : tables.rowsOf strategy =
    numbered strategy 0 ((journal.latest strategy).elim [] Watchlist.tickers)

theorem holds_empty : Holds .empty .empty where
  version _ := rfl
  rows _ := rfl

/-- The tickers of a strategy come out as they were saved. -/
theorem tickersOf_eq {tables : Tables} {tickers : List String}
    (hrows : tables.rowsOf strategy = numbered strategy 0 tickers) :
    tables.tickersOf strategy = tickers := by
  rw [tickersOf, ← rowsOf, hrows, List.mergeSort_of_pairwise (pairwise_numbered 0 tickers),
    map_ticker_numbered]

theorem Holds.load {journal : Journal} {tables : Tables} (hholds : Holds journal tables)
    (strategy : Int) : tables.load strategy = journal.latest strategy := by
  have hversion := hholds.version strategy
  have hrows := hholds.rows strategy
  rw [Tables.load, hversion]
  cases hlatest : journal.latest strategy with
  | none => rfl
  | some list =>
      rw [hlatest] at hrows
      obtain ⟨last, -, rfl⟩ := Option.map_eq_some_iff.mp hlatest
      simp [tickersOf_eq hrows]

theorem Holds.save {journal : Journal} {tables : Tables} (hholds : Holds journal tables)
    (strategy : Int) (tickers : List String) :
    tables.save strategy tickers =
        .ok (journal.next strategy tickers, tables.afterSave strategy tickers) ∧
      Holds (journal.record strategy tickers) (tables.afterSave strategy tickers) := by
  have hversion : tables.nextVersion strategy = (journal.next strategy tickers).version := by
    rw [journal.version_next, nextVersion, hholds.version strategy]
    cases journal.latest strategy <;> rfl
  refine ⟨?_, ⟨fun other => ?_, fun other => ?_⟩⟩
  · rw [save_eq, hversion]
    rfl
  · rw [version?_afterSave, journal.latest_record, hholds.version other, hversion]
    by_cases h : other = strategy <;> simp [h]
  · rw [rowsOf_afterSave, journal.latest_record, hholds.rows other]
    by_cases h : other = strategy
    · simp [h, Journal.next]
    · simp [h]

theorem keeper_keeps {m : Type → Type} [Monad m] [LawfulMonad m] :
    (keeper : Keeper (StateT Tables m)).Keeps Holds where
  save {journal tables} hholds strategy tickers := by
    obtain ⟨hsave, hholds'⟩ := hholds.save strategy tickers
    exact ⟨_, hholds', by simp [keeper, hsave]⟩
  load {journal tables} hholds strategy := by
    simp [keeper, hholds.load strategy]

/-- **Tables are like the shelf.**  Whatever saves and loads are made, in whatever order, tables that
were empty at first answer them as a shelf does that was empty at first.  No answer is a failure, and
the next save adds all of its rows, whatever it saves. -/
theorem answers_eq_shelf (requests : List Keeper.Request) :
    let onShelf := (requests.mapM (Shelf.keeper (m := Id)).answer).run Shelf.empty
    let inTables := (requests.mapM (keeper (m := Id)).answer).run empty
    inTables.1 = onShelf.1 ∧
      (∀ answer ∈ inTables.1, ∃ list?, answer = .ok list?) ∧
      ∀ strategy tickers, ∃ saved, inTables.2.save strategy tickers = .ok saved := by
  obtain ⟨shelf, -, hshelf⟩ := Shelf.keeper_keeps.answers (m := Id) Shelf.holds_empty requests
  obtain ⟨tables, hholds, htables⟩ := keeper_keeps.answers (m := Id) holds_empty requests
  intro onShelf inTables
  have honShelf : onShelf = (_, shelf) := hshelf
  have hinTables : inTables = (_, tables) := htables
  rw [honShelf, hinTables]
  refine ⟨rfl, fun answer hanswer => ?_, fun strategy tickers => ?_⟩
  · obtain ⟨list?, -, rfl⟩ := List.mem_map.mp hanswer
    exact ⟨list?, rfl⟩
  · exact ⟨_, tables.save_eq strategy tickers⟩

end Screener.Tables
