import Mathlib.Data.List.Perm.Basic
import Screener.Proofs.Formula.Results
import Screener.File.Tree
import Screener.Records.Directory

/-!
# Histories

The history of a ticker is the end of one list: the bars of its table in the order of time, where bars
of one time keep the order of the table (`History.StableOrder`).  There is only one such list
(`StableOrder.unique`), so how many bars are asked for decides how much of it is given and nothing
else, and the latest bar is the same whoever asks.

A table with a record that is no bar has no history at all, and the first such record is blamed.
Whether a record is a bar, and which, depends on its fields and the names of the columns alone
(`History.Reads`); where it stands is told in failures only.
-/

namespace Screener

/-! ## The order of time -/

namespace Timestamp

theorem le_iff {s t : Timestamp} :
    s.le t = true ↔ s.seconds < t.seconds ∨ s.seconds = t.seconds ∧ (s.leap = true → t.leap = true) := by
  cases s with
  | mk seconds leap => cases leap <;> simp [le]

theorem le_refl (s : Timestamp) : s.le s = true := le_iff.mpr (.inr ⟨rfl, id⟩)

theorem le_trans {s t u : Timestamp} (hfirst : s.le t = true) (hsecond : t.le u = true) :
    s.le u = true := by
  rw [le_iff] at hfirst hsecond ⊢
  rcases hfirst with hlt | ⟨heq, hleap⟩
  · exact .inl (by omega)
  · rcases hsecond with hlt | ⟨heq', hleap'⟩
    · exact .inl (by omega)
    · exact .inr ⟨heq.trans heq', hleap' ∘ hleap⟩

theorem le_total (s t : Timestamp) : (s.le t || t.le s) = true := by
  rw [Bool.or_eq_true, le_iff, le_iff]
  rcases Int.lt_trichotomy s.seconds t.seconds with hlt | heq | hgt
  · exact .inl (.inl hlt)
  · cases hleap : s.leap with
    | false => exact .inl (.inr ⟨heq, nofun⟩)
    | true => exact .inr (.inr ⟨heq.symm, fun _ => rfl⟩)
  · exact .inr (.inl hgt)

theorem le_antisymm {s t : Timestamp} (hfirst : s.le t = true) (hsecond : t.le s = true) : s = t := by
  rw [le_iff] at hfirst hsecond
  obtain ⟨heq, hleap⟩ := hfirst.resolve_left (by omega)
  obtain ⟨-, hleap'⟩ := hsecond.resolve_left (by omega)
  cases s with
  | mk seconds leap =>
      cases t with
      | mk seconds' leap' =>
          obtain rfl : seconds = seconds' := heq
          obtain rfl : leap = leap' := Bool.eq_iff_iff.mpr ⟨hleap, hleap'⟩
          rfl

end Timestamp

namespace History

/-! ## Bars in the order of time -/

/-- Whether a list has the bars of another one in the order of time, those of one time in their old
order. -/
structure StableOrder (bars sorted : List (Bar Float)) : Prop where
  ascending : sorted.Pairwise fun bar later => bar.timestamp.le later.timestamp = true
  stable : ∀ time, sorted.filter (·.timestamp = time) = bars.filter (·.timestamp = time)

theorem le_timestamp_trans (first second third : Bar Float)
    (hfirst : first.timestamp.le second.timestamp = true)
    (hsecond : second.timestamp.le third.timestamp = true) :
    first.timestamp.le third.timestamp = true := Timestamp.le_trans hfirst hsecond

theorem le_timestamp_total (first second : Bar Float) :
    (first.timestamp.le second.timestamp || second.timestamp.le first.timestamp) = true :=
  Timestamp.le_total _ _

theorem stableOrder_inOrder (bars : List (Bar Float)) : StableOrder bars (inOrder bars) where
  ascending := List.pairwise_mergeSort le_timestamp_trans le_timestamp_total bars
  stable := by
    intro time
    have hone : (bars.filter (·.timestamp = time)).Pairwise fun bar later =>
        bar.timestamp.le later.timestamp = true := by
      refine List.pairwise_of_forall_mem_list fun bar hbar later hlater => ?_
      have htime : bar.timestamp = time := of_decide_eq_true (List.mem_filter.mp hbar).2
      have htime' : later.timestamp = time := of_decide_eq_true (List.mem_filter.mp hlater).2
      rw [htime, htime']
      exact time.le_refl
    -- the bars of one time are in order already, so sorting leaves them in their order
    have hsublist : (bars.filter (·.timestamp = time)).Sublist (inOrder bars) :=
      List.sublist_mergeSort le_timestamp_trans le_timestamp_total hone List.filter_sublist
    have hfilter := hsublist.filter (·.timestamp = time)
    rw [List.filter_filter] at hfilter
    simp only [Bool.and_self] at hfilter
    have hperm : ((inOrder bars).filter (·.timestamp = time)).Perm
        (bars.filter (·.timestamp = time)) := (List.mergeSort_perm bars _).filter _
    exact (hfilter.eq_of_length hperm.length_eq.symm).symm

theorem length_inOrder (bars : List (Bar Float)) : (inOrder bars).length = bars.length :=
  List.length_mergeSort bars

/-- Lists with the same bars of every time have the same bars. -/
theorem mem_iff_of_filter_eq {first second : List (Bar Float)}
    (hsame : ∀ time, first.filter (·.timestamp = time) = second.filter (·.timestamp = time))
    (bar : Bar Float) : bar ∈ first ↔ bar ∈ second := by
  have hfilter : ∀ list : List (Bar Float),
      bar ∈ list.filter (·.timestamp = bar.timestamp) ↔ bar ∈ list := by
    intro list
    simp [List.mem_filter]
  rw [← hfilter first, hsame, hfilter]

theorem eq_of_ascending {first second : List (Bar Float)}
    (hfirst : first.Pairwise fun bar later => bar.timestamp.le later.timestamp = true)
    (hsecond : second.Pairwise fun bar later => bar.timestamp.le later.timestamp = true)
    (hsame : ∀ time, first.filter (·.timestamp = time) = second.filter (·.timestamp = time)) :
    first = second := by
  induction first generalizing second with
  | nil =>
      cases second with
      | nil => rfl
      | cons head tail => exact absurd ((mem_iff_of_filter_eq hsame head).mpr (by simp)) (by simp)
  | cons bar rest ih =>
      cases second with
      | nil => exact absurd ((mem_iff_of_filter_eq hsame bar).mp (by simp)) (by simp)
      | cons bar' rest' =>
          rw [List.pairwise_cons] at hfirst hsecond
          -- each of the two heads occurs in the other list, so neither is later than the other
          have htime : bar.timestamp = bar'.timestamp := by
            refine Timestamp.le_antisymm ?_ ?_
            · rcases List.mem_cons.mp ((mem_iff_of_filter_eq hsame bar').mpr (by simp)) with
                heq | hlater
              · exact heq ▸ bar'.timestamp.le_refl
              · exact hfirst.1 bar' hlater
            · rcases List.mem_cons.mp ((mem_iff_of_filter_eq hsame bar).mp (by simp)) with
                heq | hlater
              · exact heq ▸ bar.timestamp.le_refl
              · exact hsecond.1 bar hlater
          have hhead := hsame bar.timestamp
          rw [List.filter_cons_of_pos (by simp), List.filter_cons_of_pos (by simp [htime])] at hhead
          obtain ⟨rfl, hrest⟩ := List.cons.inj hhead
          refine congrArg (bar :: ·) (ih hfirst.2 hsecond.2 fun time => ?_)
          by_cases heq : bar.timestamp = time
          · rw [← heq]
            exact hrest
          · have htail := hsame time
            rwa [List.filter_cons_of_neg (by simp [heq]), List.filter_cons_of_neg (by simp [heq])]
              at htail

namespace StableOrder

variable {bars sorted : List (Bar Float)}

theorem eq_inOrder (horder : StableOrder bars sorted) : sorted = inOrder bars :=
  eq_of_ascending horder.ascending (stableOrder_inOrder bars).ascending fun time =>
    (horder.stable time).trans ((stableOrder_inOrder bars).stable time).symm

/-- Bars of pairwise different times have one order whatever their order was. -/
theorem perm (horder : StableOrder bars sorted) {bars' : List (Bar Float)}
    (hperm : bars'.Perm bars) (hdistinct : (bars.map Bar.timestamp).Nodup) :
    StableOrder bars' sorted where
  ascending := horder.ascending
  stable := by
    intro time
    rw [horder.stable time]
    have htimes : ((bars.filter (·.timestamp = time)).map Bar.timestamp).Nodup :=
      hdistinct.sublist (List.filter_sublist.map _)
    have hall : ∀ bar ∈ bars.filter (·.timestamp = time), bar.timestamp = time :=
      fun bar hbar => of_decide_eq_true (List.mem_filter.mp hbar).2
    have hone := hperm.filter (·.timestamp = time)
    generalize bars.filter (·.timestamp = time) = those at htimes hall hone ⊢
    -- there is at most one bar of the time, so there is nothing to put in another order
    cases those with
    | nil => exact hone.eq_nil.symm
    | cons first rest =>
        cases rest with
        | nil => exact (List.perm_singleton.mp hone).symm
        | cons second rest =>
            have heq : first.timestamp = second.timestamp :=
              (hall first (by simp)).trans (hall second (by simp)).symm
            rw [List.map_cons, List.map_cons, List.nodup_cons, heq] at htimes
            exact absurd List.mem_cons_self htimes.1

end StableOrder

/-! ## Records -/

/-- The names of the columns of a table. -/
def header (text : String) : List String := (TableRow.ofText text).head?.elim [] TableRow.fields

/-- The records of a table after the names of its columns. -/
def records (text : String) : List TableRow := (TableRow.ofText text).tail

/-- Whether a record with these fields is a bar, wherever it stands. -/
def Reads (names fields : List String) (bar : Bar Float) : Prop :=
  ∀ number place, readBar names number ⟨place, fields⟩ = .ok bar

variable {names : List String} {number : Nat} {rows : List TableRow} {bars : List (Bar Float)}

theorem readBar_eq_ok_iff {row : TableRow} {bar : Bar Float} :
    readBar names number row = .ok bar ↔ Reads names row.fields bar := by
  have hplaces : ∀ number' place, readBar names number' ⟨place, row.fields⟩ = .ok bar ↔
      readBar names number row = .ok bar := by
    intro number' place
    have hrow : readRow names ⟨place, row.fields⟩ = readRow names row := rfl
    rw [readBar, readBar, hrow]
    cases readRow names row with
    | error fault => exact ⟨nofun, nofun⟩
    | ok found => exact Iff.rfl
  exact ⟨fun hbar number' place => (hplaces number' place).mpr hbar,
    fun hreads => (hplaces number row.place).mp (hreads number row.place)⟩

theorem exists_reads (hbars : List.Forall₂ (Reads names) (rows.map TableRow.fields) bars)
    (row : TableRow) (hrow : row ∈ rows) : ∃ bar, Reads names row.fields bar := by
  have hall := hbars.imp fun fields bar hreads =>
    (⟨⟨bar, hreads⟩, hreads⟩ : (∃ bar, Reads names fields bar) ∧ Reads names fields bar)
  exact (List.forall₂_and_left _ _).mp hall |>.1 row.fields (List.mem_map_of_mem hrow)

/-- Records give bars if each of them is one. -/
theorem readBars_eq_ok_iff :
    readBars names number rows = .ok bars ↔
      List.Forall₂ (Reads names) (rows.map TableRow.fields) bars := by
  induction rows generalizing number bars with
  | nil =>
      rw [readBars, List.map_nil, List.forall₂_nil_left_iff]
      exact ⟨fun hbars => (Except.ok.inj hbars).symm, fun hbars => by rw [hbars]⟩
  | cons row rest ih =>
      rw [readBars, List.map_cons, List.forall₂_cons_left_iff, bind_eq_ok_iff]
      constructor
      · rintro ⟨bar, hbar, hrest⟩
        obtain ⟨others, hothers, heq⟩ := bind_eq_ok hrest
        exact ⟨bar, others, readBar_eq_ok_iff.mp hbar, ih.mp hothers, (Except.ok.inj heq).symm⟩
      · rintro ⟨bar, others, hbar, hothers, rfl⟩
        have hothers' : readBars names (number + 1) rest = .ok others := ih.mpr hothers
        exact ⟨bar, readBar_eq_ok_iff.mpr hbar, by rw [hothers']; rfl⟩

/-- Otherwise the first record that is none is to blame. -/
theorem readBars_eq_error_iff {e : HistoryError} :
    readBars names number rows = .error e ↔
      ∃ before row after, rows = before ++ row :: after ∧
        (∀ earlier ∈ before, ∃ bar, Reads names earlier.fields bar) ∧
        readBar names (number + before.length) row = .error e := by
  induction rows generalizing number with
  | nil => simp [readBars]
  | cons row rest ih =>
      rw [readBars]
      constructor
      · intro herror
        rcases bind_eq_error herror with hrow | ⟨bar, hbar, hrest⟩
        · exact ⟨[], row, rest, rfl, by simp, hrow⟩
        · rcases bind_eq_error hrest with hlater | ⟨others, -, hnever⟩
          · obtain ⟨before, found, after, rfl, hbefore, hfound⟩ := ih.mp hlater
            refine ⟨row :: before, found, after, rfl, ?_, ?_⟩
            · exact List.forall_mem_cons.mpr ⟨⟨bar, readBar_eq_ok_iff.mp hbar⟩, hbefore⟩
            · rw [List.length_cons, ← hfound]
              congr 1
              omega
          · cases hnever
      · rintro ⟨before, found, after, hsplit, hbefore, hfound⟩
        cases before with
        | nil =>
            obtain ⟨rfl, rfl⟩ := List.cons.inj hsplit
            have hrow : readBar names number row = .error e := hfound
            rw [hrow]
            rfl
        | cons first before =>
            obtain ⟨rfl, rfl⟩ := List.cons.inj hsplit
            obtain ⟨⟨bar, hbar⟩, hothers⟩ := List.forall_mem_cons.mp hbefore
            have hfound' : readBar names (number + 1 + before.length) found = .error e := by
              rw [← hfound, List.length_cons]
              congr 1
              omega
            have hlater := ih.mpr ⟨before, found, after, rfl, hothers, hfound'⟩
            rw [readBar_eq_ok_iff.mpr hbar]
            show readBars names (number + 1) _ >>= _ = _
            rw [hlater]
            rfl

theorem read_eq (text : String) :
    read text = (readBars (header text) 1 (records text)).map inOrder := by
  rw [read, header, records]
  cases TableRow.ofText text with
  | nil => exact congrArg Except.ok List.mergeSort_nil.symm
  | cons names rows => rfl

/-! ## The latest bars -/

section

variable {α : Type}

theorem latest_suffix (limit : Nat) (bars : List α) : latest limit bars <:+ bars :=
  List.drop_suffix _ _

theorem length_latest (limit : Nat) (bars : List α) :
    (latest limit bars).length = min limit bars.length := by
  rw [latest, List.length_drop]
  omega

/-- Whoever asks for a bar at all gets the last one. -/
theorem getLast?_latest {limit : Nat} (hlimit : 1 ≤ limit) (bars : List α) :
    (latest limit bars).getLast? = bars.getLast? := by
  rw [latest, List.getLast?_drop]
  cases bars with
  | nil => rfl
  | cons first rest => rw [if_neg (by rw [List.length_cons]; omega)]

end

end History

/-- The bars at which the histories of several tickers end, if as many as `limit` bars are asked for. -/
def Market.lastBars {m : Type → Type} [Monad m] (market : Market m) (limit : Nat)
    (tickers : List String) (timeframe : Timeframe) : m Frame := do
  let rows ← tickers.mapM fun ticker =>
    return latestRow ticker (← market.history ticker timeframe limit)
  return Frame.snapshot (rows.filterMap id)

/-! ## Histories of files -/

namespace MarketDirectory

open History

variable (ticker path : String) (limit : Nat) {text : String} {bars : List (Bar Float)}

theorem readHistory_eq_ok (hbars : readBars (header text) 1 (records text) = .ok bars) :
    readHistory ticker path limit (.ok text) = .ok (latest limit (inOrder bars)) := by
  have hread : History.read text = .ok (inOrder bars) := by rw [read_eq, hbars]; rfl
  rw [readHistory]
  simp only [hread]

theorem readHistory_eq_error {e : HistoryError}
    (hbars : readBars (header text) 1 (records text) = .error e) :
    readHistory ticker path limit (.ok text) = .error (.dataSource ticker e.message) := by
  have hread : History.read text = .error e := by rw [read_eq, hbars]; rfl
  rw [readHistory]
  simp only [hread]

/-- A history that is given is the end of the bars in the order of time. -/
theorem exists_of_readHistory_eq_ok {found : List (Bar Float)}
    (hhistory : readHistory ticker path limit (.ok text) = .ok found) :
    ∃ bars, readBars (header text) 1 (records text) = .ok bars ∧
      found = latest limit (inOrder bars) := by
  cases hbars : readBars (header text) 1 (records text) with
  | error e =>
      rw [readHistory_eq_error ticker path limit hbars] at hhistory
      cases hhistory
  | ok bars =>
      rw [readHistory_eq_ok ticker path limit hbars] at hhistory
      exact ⟨bars, rfl, (Except.ok.inj hhistory).symm⟩

/-- The failure is that of the first record that is no bar. -/
theorem readHistory_eq_error_iff {failure : Failure} :
    readHistory ticker path limit (.ok text) = .error failure ↔
      ∃ before row after e, records text = before ++ row :: after ∧
        (∀ earlier ∈ before, ∃ bar, Reads (header text) earlier.fields bar) ∧
        readBar (header text) (before.length + 1) row = .error e ∧
        failure = .dataSource ticker e.message := by
  constructor
  · intro hfails
    cases hbars : readBars (header text) 1 (records text) with
    | ok bars =>
        rw [readHistory_eq_ok ticker path limit hbars] at hfails
        cases hfails
    | error e =>
        rw [readHistory_eq_error ticker path limit hbars] at hfails
        obtain ⟨before, row, after, hsplit, hbefore, hrow⟩ := readBars_eq_error_iff.mp hbars
        rw [Nat.add_comm] at hrow
        exact ⟨before, row, after, e, hsplit, hbefore, hrow, (Except.error.inj hfails).symm⟩
  · rintro ⟨before, row, after, e, hsplit, hbefore, hrow, rfl⟩
    rw [Nat.add_comm] at hrow
    exact readHistory_eq_error ticker path limit
      (readBars_eq_error_iff.mpr ⟨before, row, after, hsplit, hbefore, hrow⟩)

/-- A history fails if some record is no bar, however many bars are asked for. -/
theorem exists_readHistory_eq_error_iff :
    (∃ failure, readHistory ticker path limit (.ok text) = .error failure) ↔
      ∃ row ∈ records text, ∀ bar, ¬ Reads (header text) row.fields bar := by
  constructor
  · rintro ⟨failure, hfails⟩
    obtain ⟨before, row, after, e, hsplit, -, hrow, -⟩ :=
      (readHistory_eq_error_iff ticker path limit).mp hfails
    refine ⟨row, by simp [hsplit], fun bar hreads => ?_⟩
    rw [readBar_eq_ok_iff.mpr hreads] at hrow
    cases hrow
  · rintro ⟨row, hmem, hnone⟩
    cases hbars : readBars (header text) 1 (records text) with
    | error e => exact ⟨_, readHistory_eq_error ticker path limit hbars⟩
    | ok bars =>
        obtain ⟨bar, hreads⟩ := exists_reads (readBars_eq_ok_iff.mp hbars) row hmem
        exact absurd hreads (hnone bar)

/-- What is given is the end of the only order in which the bars can stand. -/
theorem exists_order (hreads : List.Forall₂ (Reads (header text))
    ((records text).map TableRow.fields) bars) :
    ∃ sorted, (∀ other, StableOrder bars other ↔ other = sorted) ∧ ∀ limit, ∃ earlier found,
      readHistory ticker path limit (.ok text) = .ok found ∧ sorted = earlier ++ found ∧
      found.length = min limit (records text).length := by
  have hbars : readBars (header text) 1 (records text) = .ok bars := readBars_eq_ok_iff.mpr hreads
  refine ⟨inOrder bars, fun other => ⟨StableOrder.eq_inOrder, ?_⟩, fun limit => ?_⟩
  · rintro rfl
    exact stableOrder_inOrder bars
  · obtain ⟨earlier, hsplit⟩ := latest_suffix limit (inOrder bars)
    refine ⟨earlier, _, readHistory_eq_ok ticker path limit hbars, hsplit.symm, ?_⟩
    have hlength : bars.length = (records text).length := by
      rw [← hreads.length_eq, List.length_map]
    rw [length_latest, length_inOrder, hlength]

/-- A smaller history ends a larger one. -/
theorem readHistory_suffix {fewer more : Nat} {few many : List (Bar Float)} (hle : fewer ≤ more)
    (hfew : readHistory ticker path fewer (.ok text) = .ok few)
    (hmany : readHistory ticker path more (.ok text) = .ok many) : few <:+ many := by
  obtain ⟨bars, hbars, rfl⟩ := exists_of_readHistory_eq_ok ticker path fewer hfew
  obtain ⟨bars', hbars', rfl⟩ := exists_of_readHistory_eq_ok ticker path more hmany
  obtain rfl : bars = bars' := Except.ok.inj (hbars.symm.trans hbars')
  refine List.suffix_of_suffix_length_le (latest_suffix _ _) (latest_suffix _ _) ?_
  rw [length_latest, length_latest]
  omega

/-- The records of bars of pairwise different times may stand in any order. -/
theorem readHistory_perm {text' : String} (hheader : header text' = header text)
    (hperm : ((records text').map TableRow.fields).Perm ((records text).map TableRow.fields))
    (hreads : List.Forall₂ (Reads (header text)) ((records text).map TableRow.fields) bars)
    (hdistinct : (bars.map Bar.timestamp).Nodup) :
    readHistory ticker path limit (.ok text') = readHistory ticker path limit (.ok text) := by
  obtain ⟨bars', hreads', hbars'⟩ := List.perm_comp_forall₂ hperm hreads
  rw [← hheader] at hreads'
  have hfound : readBars (header text) 1 (records text) = .ok bars := readBars_eq_ok_iff.mpr hreads
  have hfound' : readBars (header text') 1 (records text') = .ok bars' :=
    readBars_eq_ok_iff.mpr hreads'
  have horder := (stableOrder_inOrder bars).perm hbars' hdistinct
  rw [readHistory_eq_ok ticker path limit hfound, readHistory_eq_ok ticker path limit hfound',
    ← horder.eq_inOrder]

/-- Two callers that ask for at least one bar get the same latest bar. -/
theorem latestRow_readHistory {limit limit' : Nat} (hlimit : 1 ≤ limit) (hlimit' : 1 ≤ limit')
    (contents : Except SystemError String) :
    Market.latestRow ticker ((readHistory ticker path limit contents).mapError .failure) =
      Market.latestRow ticker ((readHistory ticker path limit' contents).mapError .failure) := by
  cases contents with
  | error e => cases e <;> rfl
  | ok text =>
      cases hbars : readBars (header text) 1 (records text) with
      | error e =>
          rw [readHistory_eq_error ticker path limit hbars,
            readHistory_eq_error ticker path limit' hbars]
      | ok bars =>
          rw [readHistory_eq_ok ticker path limit hbars, readHistory_eq_ok ticker path limit' hbars]
          show ((latest limit (inOrder bars)).getLast?).map _ =
            ((latest limit' (inOrder bars)).getLast?).map _
          rw [getLast?_latest hlimit, getLast?_latest hlimit']

/-- A snapshot of a directory shows the bars at which the histories of its tickers end. -/
theorem snapshot_market {m : Type → Type} [Monad m] [LawfulMonad m] [Files m] (directory : String)
    (tickers : List String) (timeframe : Timeframe) {limit : Nat} (hlimit : 1 ≤ limit) :
    (market directory : Market m).snapshot tickers timeframe =
      (market directory : Market m).lastBars limit tickers timeframe := by
  rw [Market.snapshot, Market.lastBars]
  congr 1
  congr 1
  funext ticker
  simp only [market, bind_assoc, pure_bind]
  congr 1
  funext contents
  rw [latestRow_readHistory ticker _ (by decide) hlimit]

/-- **A history is the end of one list.**  It fails if some record of the table is no bar, whatever the
limit, with the fault of the first such record.  Otherwise the bars of the records have one order in
which they ascend in time and those of one time stand as in the table, and a history is the end of it,
of the length that was asked for or as long as it gets; so a smaller history ends a larger one.  The
records may come in any order if their times differ.  The latest bar is the same for every limit but
none, so a snapshot shows the bars at which histories end. -/
theorem history_ends_stableOrder (ticker path : String) :
    let history : String → Nat → Except Failure (List (Bar Float)) :=
      fun text limit => readHistory ticker path limit (.ok text)
    (∀ text limit, (∃ failure, history text limit = .error failure) ↔
      ∃ row ∈ records text, ∀ bar, ¬ Reads (header text) row.fields bar) ∧
    (∀ text limit failure, history text limit = .error failure ↔
      ∃ before row after e, records text = before ++ row :: after ∧
        (∀ earlier ∈ before, ∃ bar, Reads (header text) earlier.fields bar) ∧
        readBar (header text) (before.length + 1) row = .error e ∧
        failure = .dataSource ticker e.message) ∧
    (∀ text bars, List.Forall₂ (Reads (header text)) ((records text).map TableRow.fields) bars →
      ∃ sorted, (∀ other, StableOrder bars other ↔ other = sorted) ∧ ∀ limit, ∃ earlier found,
        history text limit = .ok found ∧ sorted = earlier ++ found ∧
        found.length = min limit (records text).length) ∧
    (∀ text fewer more few many, fewer ≤ more → history text fewer = .ok few →
      history text more = .ok many → few <:+ many) ∧
    (∀ text text' bars, header text' = header text →
      ((records text').map TableRow.fields).Perm ((records text).map TableRow.fields) →
      List.Forall₂ (Reads (header text)) ((records text).map TableRow.fields) bars →
      (bars.map Bar.timestamp).Nodup → ∀ limit, history text' limit = history text limit) ∧
    (∀ contents limit, 1 ≤ limit →
      Market.latestRow ticker
          ((readHistory ticker path Market.snapshotLimit contents).mapError .failure) =
        Market.latestRow ticker ((readHistory ticker path limit contents).mapError .failure)) ∧
    ∀ {m : Type → Type} [Monad m] [LawfulMonad m] [Files m] (directory : String)
      (tickers : List String) (timeframe : Timeframe) (limit : Nat), 1 ≤ limit →
      (market directory : Market m).snapshot tickers timeframe =
        (market directory : Market m).lastBars limit tickers timeframe := by
  intro history
  refine ⟨fun text limit => exists_readHistory_eq_error_iff ticker path limit,
    fun text limit failure => readHistory_eq_error_iff ticker path limit,
    fun text bars hreads => exists_order ticker path hreads,
    fun text fewer more few many hle hfew hmany => readHistory_suffix ticker path hle hfew hmany,
    fun text text' bars hheader hperm hreads hdistinct limit =>
      readHistory_perm ticker path limit hheader hperm hreads hdistinct,
    fun contents limit hlimit => latestRow_readHistory ticker path (by decide) hlimit contents,
    fun directory tickers timeframe limit hlimit => snapshot_market directory tickers timeframe hlimit⟩

/-- A table with two bars of the seventeenth and one of the fifteenth between them. -/
def sameDay : String :=
  "timestamp,open,high,low,close,volume\n" ++
  "2024-01-17,3,3,3,3,1\n2024-01-15,1,1,1,1,1\n2024-01-17,4,4,4,4,1\n"

/-- A table with bars of three days in no order. -/
def threeDays : String :=
  "close,timestamp,open,high,low,volume\n" ++
  "3,2024-01-17,3,3,3,1\n1,2024-01-15,1,1,1,1\n2,2024-01-16,2,2,2,1\n"

/-- The same bars from the first day to the last. -/
def threeDaysInOrder : String :=
  "close,timestamp,open,high,low,volume\n" ++
  "1,2024-01-15,1,1,1,1\n2,2024-01-16,2,2,2,1\n3,2024-01-17,3,3,3,1\n"

theorem exists_of_map_readBars {β : Type} {f : Bar Float → β} {values : List β}
    (hvalues : (readBars (header text) 1 (records text)).toOption.map (·.map f) = some values) :
    ∃ bars, List.Forall₂ (Reads (header text)) ((records text).map TableRow.fields) bars ∧
      bars.map f = values := by
  obtain ⟨bars, hbars, hmap⟩ := Option.map_eq_some_iff.mp hvalues
  refine ⟨bars, readBars_eq_ok_iff.mp (?_ : readBars (header text) 1 (records text) = _), hmap⟩
  cases hread : readBars (header text) 1 (records text) with
  | error e =>
      rw [hread] at hbars
      cases hbars
  | ok found =>
      rw [hread] at hbars
      exact congrArg Except.ok (Option.some.inj hbars)

theorem history_ends_stableOrder_sameDay :
    let history := fun (text : String) (limit : Nat) =>
      readHistory "AAA" "AAA_day.csv" limit (.ok text)
    (∃ first earlier second,
      List.Forall₂ (Reads (header sameDay)) ((records sameDay).map TableRow.fields)
        [first, earlier, second] ∧
      first.timestamp = second.timestamp ∧ first.close = 3 ∧ second.close = 4 ∧
      history sameDay 1 = .ok [second] ∧ history sameDay 2 = .ok [first, second] ∧
      [second] <:+ [first, second]) ∧
    (∃ bars, header threeDaysInOrder = header threeDays ∧
      ((records threeDaysInOrder).map TableRow.fields).Perm
        ((records threeDays).map TableRow.fields) ∧
      List.Forall₂ (Reads (header threeDays)) ((records threeDays).map TableRow.fields) bars ∧
      (bars.map Bar.timestamp).Nodup ∧ history threeDaysInOrder 2 = history threeDays 2) ∧
    Market.latestRow "AAA" ((history sameDay Market.snapshotLimit).mapError .failure) =
      Market.latestRow "AAA" ((history sameDay 1).mapError .failure) ∧
    (market "data" : Market (StateM FileTree)).snapshot ["AAA"] .standard =
      (market "data" : Market (StateM FileTree)).lastBars 200 ["AAA"] .standard := by
  intro history
  obtain ⟨-, -, hends, hsuffix, hperm, hlatest, hsnapshot⟩ :=
    history_ends_stableOrder "AAA" "AAA_day.csv"
  refine ⟨?_, ?_, hlatest (.ok sameDay) 1 (by decide), hsnapshot _ _ _ 200 (by decide)⟩
  · have hread : (readBars (header sameDay) 1 (records sameDay)).toOption.map
        (·.map fun bar => (bar.timestamp, bar.close)) =
        some [(⟨1705449600, false⟩, 3), (⟨1705276800, false⟩, 1), (⟨1705449600, false⟩, 4)] := by
      decide +kernel
    obtain ⟨bars, hreads, hbars⟩ := exists_of_map_readBars hread
    obtain ⟨first, rest, rfl, hfirst, hrest⟩ := List.map_eq_cons_iff.mp hbars
    obtain ⟨earlier, rest, rfl, hearlier, hrest⟩ := List.map_eq_cons_iff.mp hrest
    obtain ⟨second, rest, rfl, hsecond, hrest⟩ := List.map_eq_cons_iff.mp hrest
    obtain rfl := List.map_eq_nil_iff.mp hrest
    rw [Prod.mk.injEq] at hfirst hearlier hsecond
    have horder : StableOrder [first, earlier, second] [earlier, first, second] := by
      refine ⟨?_, fun time => ?_⟩
      · simp [hfirst.1, hearlier.1, hsecond.1, Timestamp.le]
      · by_cases htime : first.timestamp = time
        · have hne : earlier.timestamp ≠ time := by
            rw [← htime, hfirst.1, hearlier.1]
            decide
          simp [List.filter_cons, hne]
        · have hne : second.timestamp ≠ time := by rwa [hsecond.1, ← hfirst.1]
          simp [List.filter_cons, htime, hne]
    obtain ⟨sorted, hunique, hhistory⟩ := hends sameDay _ hreads
    obtain rfl := (hunique _).mp horder
    have hrows : (records sameDay).length = 3 := by rw [← List.length_map, hreads.length_eq]; rfl
    have hlast : ∀ limit before last, before ++ last = [earlier, first, second] →
        last.length = min limit 3 → history sameDay limit = .ok last := by
      intro limit before last hlist hlast
      obtain ⟨before', found, hfound, hsplit, hlength⟩ := hhistory limit
      rw [hrows, ← hlast] at hlength
      obtain ⟨-, rfl⟩ := List.append_inj' (hsplit.symm.trans hlist.symm) hlength
      exact hfound
    have hone : history sameDay 1 = .ok [second] := hlast 1 [earlier, first] _ rfl rfl
    have htwo : history sameDay 2 = .ok [first, second] := hlast 2 [earlier] _ rfl rfl
    exact ⟨first, earlier, second, hreads, hfirst.1.trans hsecond.1.symm, hfirst.2, hsecond.2, hone,
      htwo, hsuffix sameDay 1 2 _ _ (by decide) hone htwo⟩
  · have hread : (readBars (header threeDays) 1 (records threeDays)).toOption.map
        (·.map Bar.timestamp) =
        some [⟨1705449600, false⟩, ⟨1705276800, false⟩, ⟨1705363200, false⟩] := by
      decide +kernel
    obtain ⟨bars, hreads, hbars⟩ := exists_of_map_readBars hread
    obtain ⟨hheader, hrecords⟩ : header threeDaysInOrder = header threeDays ∧
        ((records threeDaysInOrder).map TableRow.fields).Perm
          ((records threeDays).map TableRow.fields) := by decide +kernel
    have hdistinct : (bars.map Bar.timestamp).Nodup := by
      rw [hbars]
      decide
    exact ⟨bars, hheader, hrecords, hreads, hdistinct,
      hperm threeDays threeDaysInOrder bars hheader hrecords hreads hdistinct 2⟩

end MarketDirectory

end Screener
