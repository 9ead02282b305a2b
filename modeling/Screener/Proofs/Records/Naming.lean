import Screener.Proofs.File.Tree
import Screener.Proofs.Text.Bytes
import Screener.Records.Directory
import Screener.Text.Pieces
import Mathlib.Data.List.Sort

/-!
# The names of history files

The name of a file can be taken apart again into the ticker and the timeframe that it is made of
(`MarketDirectory.tickerOf?_eq_some_iff`, `MarketDirectory.fileName_inj`), also for tickers that
look like file names themselves: no timeframe has an underscore in its name.  So the listing of a
directory has exactly the tickers that it has files for, and the history of a listed ticker is read
from its own file, if the file system takes the path of this file.
-/

namespace Screener.MarketDirectory

/-! ### Tickers and file names -/

theorem fileName_toList (ticker : String) (timeframe : Timeframe) :
    (fileName ticker timeframe).toList = ticker.toList ++ (ending timeframe).toList :=
  String.toList_append

theorem tickerOf?_eq_some_iff {timeframe : Timeframe} {name ticker : String} :
    tickerOf? timeframe name = some ticker ↔ ticker ≠ "" ∧ name = fileName ticker timeframe := by
  simp only [tickerOf?, Option.map_eq_some_iff, Option.filter_eq_some_iff,
    List.isSuffixOf?_eq_some_iff_append_eq]
  constructor
  · rintro ⟨cs, ⟨hcs, hgiven⟩, rfl⟩
    refine ⟨by simpa [← String.toList_inj] using hgiven, ?_⟩
    rw [← String.toList_inj, fileName_toList, String.toList_ofList, hcs]
  · rintro ⟨hgiven, rfl⟩
    refine ⟨ticker.toList, ⟨(fileName_toList ticker timeframe).symm, ?_⟩, String.ofList_toList⟩
    simpa using hgiven

theorem underscore_not_mem_name (timeframe : Timeframe) : '_' ∉ timeframe.name.toList := by
  cases timeframe <;> decide

/-- A file name read backwards: the name of the timeframe stands before the first underscore. -/
theorem splitFirst_fileName (ticker : String) (timeframe : Timeframe) :
    Text.splitFirst '_' (fileName ticker timeframe).toList.reverse =
      some ("vsc.".toList ++ timeframe.name.toList.reverse, ticker.toList.reverse) := by
  rw [Text.splitFirst_eq_some_iff, fileName_toList, ending]
  refine ⟨by simp [String.toList_append], ?_⟩
  rw [List.mem_append, not_or, List.mem_reverse]
  exact ⟨by decide, underscore_not_mem_name timeframe⟩

/-- Different tickers and timeframes have different files. -/
theorem fileName_inj {ticker ticker' : String} {timeframe timeframe' : Timeframe} :
    fileName ticker timeframe = fileName ticker' timeframe' ↔
      ticker = ticker' ∧ timeframe = timeframe' := by
  constructor
  · intro hname
    have hsplit := splitFirst_fileName ticker timeframe
    rw [hname, splitFirst_fileName ticker' timeframe', Option.some.injEq, Prod.mk.injEq,
      List.append_cancel_left_eq, List.reverse_inj, List.reverse_inj, String.toList_inj,
      String.toList_inj] at hsplit
    obtain ⟨htimeframe, hticker⟩ := hsplit
    refine ⟨hticker.symm, ?_⟩
    have hread := Timeframe.read?_name timeframe
    rw [← htimeframe, Timeframe.read?_name timeframe'] at hread
    exact (Option.some.inj hread).symm
  · rintro ⟨rfl, rfl⟩
    rfl

/-- The name of a file can stand in a path if the ticker can. -/
theorem isStep_fileName {ticker : String} (timeframe : Timeframe) (hsolid : '/' ∉ ticker.toList) :
    Path.IsStep (fileName ticker timeframe) ∧ fileName ticker timeframe ≠ "." := by
  have hending : '/' ∉ (ending timeframe).toList ∧ '_' ∈ (ending timeframe).toList := by
    cases timeframe <;> decide
  have hunderscore : '_' ∈ (fileName ticker timeframe).toList := by
    rw [fileName_toList]
    exact List.mem_append_right _ hending.2
  refine ⟨⟨fun hempty => ?_, ?_⟩, fun hpoint => ?_⟩
  · rw [hempty] at hunderscore
    exact absurd hunderscore (by decide)
  · rw [fileName_toList, List.mem_append, not_or]
    exact ⟨hsolid, hending.1⟩
  · rw [hpoint] at hunderscore
    exact absurd hunderscore (by decide)

/-- Different tickers and timeframes have different paths. -/
theorem components_join_inj {directory ticker ticker' : String} {timeframe timeframe' : Timeframe}
    (hsolid : '/' ∉ ticker.toList) (hsolid' : '/' ∉ ticker'.toList)
    (hpaths : Path.components (Path.join directory (fileName ticker timeframe)) =
      Path.components (Path.join directory (fileName ticker' timeframe'))) :
    ticker = ticker' ∧ timeframe = timeframe' := by
  obtain ⟨hstep, hpoint⟩ := isStep_fileName timeframe hsolid
  obtain ⟨hstep', hpoint'⟩ := isStep_fileName timeframe' hsolid'
  have hlast := Path.getLast?_components_join directory hstep hpoint
  rw [hpaths, Path.getLast?_components_join directory hstep' hpoint', Option.some.injEq] at hlast
  exact fileName_inj.mp hlast.symm

/-! ### Listings -/

theorem mem_tickersOf_iff {timeframe : Timeframe} {names : List String} {ticker : String} :
    ticker ∈ tickersOf timeframe names ↔ ticker ≠ "" ∧ fileName ticker timeframe ∈ names := by
  rw [tickersOf, List.mem_mergeSort, List.mem_filterMap]
  constructor
  · rintro ⟨name, hname, hticker⟩
    obtain ⟨hgiven, rfl⟩ := tickerOf?_eq_some_iff.mp hticker
    exact ⟨hgiven, hname⟩
  · rintro ⟨hgiven, hname⟩
    exact ⟨_, hname, tickerOf?_eq_some_iff.mpr ⟨hgiven, rfl⟩⟩

theorem nodup_tickersOf {timeframe : Timeframe} {names : List String} (hnames : names.Nodup) :
    (tickersOf timeframe names).Nodup := by
  rw [tickersOf, (List.mergeSort_perm _ _).nodup_iff]
  refine List.Nodup.filterMap ?_ hnames
  intro first second ticker hfirst hsecond
  rw [(tickerOf?_eq_some_iff.mp hfirst).2, (tickerOf?_eq_some_iff.mp hsecond).2]

/-- Listings are in ascending order of their bytes. -/
theorem pairwise_tickersOf {timeframe : Timeframe} {names : List String} (hnames : names.Nodup) :
    (tickersOf timeframe names).Pairwise fun t u => Text.bytes t < Text.bytes u := by
  have hsorted : (tickersOf timeframe names).Pairwise fun t u => decide (t ≤ u) = true :=
    List.pairwise_mergeSort
      (fun a b c hab hbc => decide_eq_true ((of_decide_eq_true hab).trans (of_decide_eq_true hbc)))
      (fun a b => by simpa using le_total a b) _
  refine (hsorted.and (nodup_tickersOf hnames)).imp ?_
  rintro t u ⟨hle, hne⟩
  exact Text.bytes_lt (lt_of_le_of_ne (of_decide_eq_true hle) hne)

/-! ### Directories of a tree -/

variable {tree : FileTree} {directory : String} {place : List String}

/-- What a file is as a text. -/
def textOf (bytes : ByteArray) : Except SystemError String :=
  match String.fromUTF8? bytes with
  | some text => .ok text
  | none => .error .notText

/-- A list has, in ascending order of their bytes, exactly the tickers that a place has entries of a
timeframe for, each of them once. -/
structure IsListing (tree : FileTree) (place : List String) (timeframe : Timeframe)
    (listed : List String) : Prop where
  ascending : listed.Pairwise fun t u => Text.bytes t < Text.bytes u
  once : listed.Nodup
  complete : ∀ ticker, ticker ∈ listed ↔
    ticker ≠ "" ∧ ∃ item, (place ++ [fileName ticker timeframe], item) ∈ tree.items

/-- In a tree no name is refused. -/
theorem listed_map_ok (timeframe : Timeframe) (names : List String) :
    listed directory timeframe (.ok (names.map .ok)) = .ok (tickersOf timeframe names) := by
  have hnames : (names.map Except.ok).mapM id = (.ok names : Except SystemError _) := by
    induction names with
    | nil => rfl
    | cons name rest ih =>
        rw [List.map_cons, List.mapM_cons, ih]
        rfl
  rw [listed, hnames]

theorem run_listing {names : List String} (hnames : tree.names directory = .ok names)
    (timeframe : Timeframe) :
    ((market directory : Market (StateM FileTree)).listing timeframe).run tree =
      (.ok (tickersOf timeframe names), tree) := by
  simp only [market, Files.names, bind_pure_comp, StateT.run_map, StateT.run_get, map_pure, hnames]
  rw [Except.map, listed_map_ok]
  rfl

theorem run_history (ticker : String) (timeframe : Timeframe) (limit : Nat) :
    ((market directory : Market (StateM FileTree)).history ticker timeframe limit).run tree =
      ((readHistory ticker (Path.join directory (fileName ticker timeframe)) limit
        (tree.readBytes (Path.join directory (fileName ticker timeframe)) >>= textOf)).mapError
          .failure, tree) := by
  simp only [market, Files.readText, Files.readBytes, StateT.run_bind, StateT.run_get, pure_bind,
    StateT.run_pure]
  cases tree.readBytes (Path.join directory (fileName ticker timeframe)) with
  | error e => rfl
  | ok bytes =>
      simp only [textOf, bind, Except.bind]
      cases String.fromUTF8? bytes <;> rfl

theorem names_of_find (hdirectory : tree.find directory = .ok (place, .directory)) :
    ∃ names, tree.names directory = .ok names := by
  rw [FileTree.names, hdirectory]
  exact ⟨_, rfl⟩

theorem isListing_tickersOf {names : List String} (hsound : tree.IsSound)
    (hnames : tree.names directory = .ok names)
    (hdirectory : tree.find directory = .ok (place, .directory)) (timeframe : Timeframe) :
    IsListing tree place timeframe (tickersOf timeframe names) where
  ascending := pairwise_tickersOf (FileTree.nodup_names hsound hnames)
  once := nodup_tickersOf (FileTree.nodup_names hsound hnames)
  complete ticker := by
    rw [mem_tickersOf_iff, FileTree.mem_names_iff hsound hnames hdirectory]

/-- An entry of a directory that is a file is what its path leads to. -/
theorem readBytes_join {name : String} {bytes : ByteArray} (hsound : tree.IsSound)
    (hdirectory : tree.find directory = .ok (place, .directory))
    (hentry : (place ++ [name], .file bytes) ∈ tree.items) :
    tree.readBytes (Path.join directory name) =
      if (Path.join directory name).utf8ByteSize < FileTree.longestPath then .ok bytes
      else .error .nameTooLong := by
  obtain ⟨above, last, hplace, hname, -⟩ := hsound.below _ hentry
  obtain ⟨rfl, hlast⟩ := List.append_inj' hplace rfl
  obtain rfl : name = last := List.singleton_inj.mp hlast
  have hitem := (FileTree.item?_eq_some_iff hsound hname).mpr hentry
  rw [FileTree.readBytes, FileTree.find_join hname hdirectory, hitem]
  split <;> rfl

/-- The wording for a history whose file has a path that the file system does not take. -/
def tooLong (ticker path : String) : Failure :=
  .dataSource ticker ("failed to read " ++ path ++ ": " ++ SystemError.nameTooLong.message)

/-- The history of a ticker is what its own file holds, if the file system takes the path. -/
theorem run_history_of_entry {ticker : String} {timeframe : Timeframe} {bytes : ByteArray}
    (hsound : tree.IsSound) (hdirectory : tree.find directory = .ok (place, .directory))
    (hentry : (place ++ [fileName ticker timeframe], .file bytes) ∈ tree.items) (limit : Nat) :
    let path := Path.join directory (fileName ticker timeframe)
    ((market directory : Market (StateM FileTree)).history ticker timeframe limit).run tree =
      ((if path.utf8ByteSize < FileTree.longestPath
        then readHistory ticker path limit (textOf bytes)
        else .error (tooLong ticker path)).mapError .failure, tree) := by
  intro path
  rw [run_history, readBytes_join hsound hdirectory hentry]
  by_cases hfits : path.utf8ByteSize < FileTree.longestPath
  · rw [if_pos hfits, if_pos hfits]
    rfl
  · rw [if_neg hfits, if_neg hfits]
    rfl

/-- **Files are named unambiguously, and listings are complete.**  In a directory of a sound tree, the
listing of a timeframe has exactly the tickers that there are entries for, each once and in the order
of the bytes.  Where the entry of a listed ticker is a file, the history of the ticker is read from
this very entry, and it is never missing; only a path that has too many bytes for the file system makes
the reading fail.  No two tickers that can stand in a path, and no two timeframes, share a path. -/
theorem listing_complete_history_own (hsound : tree.IsSound)
    (hdirectory : tree.find directory = .ok (place, .directory)) (timeframe : Timeframe) :
    (∃ listed,
      ((market directory : Market (StateM FileTree)).listing timeframe).run tree =
        (.ok listed, tree) ∧
      IsListing tree place timeframe listed ∧
      ∀ ticker ∈ listed, ∀ bytes,
        (place ++ [fileName ticker timeframe], .file bytes) ∈ tree.items →
        let path := Path.join directory (fileName ticker timeframe)
        tree.readBytes path ≠ .error .notFound ∧ ∀ limit,
          ((market directory : Market (StateM FileTree)).history ticker timeframe limit).run tree =
            ((if path.utf8ByteSize < FileTree.longestPath
              then readHistory ticker path limit (textOf bytes)
              else .error (tooLong ticker path)).mapError .failure, tree)) ∧
    ∀ ticker ticker' : String, '/' ∉ ticker.toList → '/' ∉ ticker'.toList →
      ∀ timeframe timeframe', Path.components (Path.join directory (fileName ticker timeframe)) =
          Path.components (Path.join directory (fileName ticker' timeframe')) →
        ticker = ticker' ∧ timeframe = timeframe' := by
  refine ⟨?_, ?_⟩
  · obtain ⟨names, hnames⟩ := names_of_find hdirectory
    refine ⟨_, run_listing hnames timeframe,
      isListing_tickersOf hsound hnames hdirectory timeframe, ?_⟩
    intro ticker _ bytes hentry path
    refine ⟨?_, fun limit => run_history_of_entry hsound hdirectory hentry limit⟩
    rw [readBytes_join hsound hdirectory hentry]
    split <;> exact nofun
  · intro ticker ticker' hsolid hsolid' timeframe timeframe' hpaths
    exact components_join_inj hsolid hsolid' hpaths

/-- A table with one bar. -/
def oneBar : ByteArray :=
  "timestamp,open,high,low,close,volume\n2024-01-01,1,1,1,1,1\n".toUTF8

/-- A directory with the days of a ticker and of one that is named like a file of weeks, and with the
weeks and months of a ticker in lower and in upper case. -/
def fewTickers : FileTree where
  items := [(["data"], .directory), (["data", "A_day.csv"], .file oneBar),
    (["data", "A_week_day.csv"], .file oneBar), (["data", "krw-btc_week.csv"], .file oneBar),
    (["data", "KRW-BTC_month.csv"], .file oneBar)]

theorem isSound_fewTickers : fewTickers.IsSound where
  distinct := by decide
  below := by
    simp only [fewTickers, List.forall_mem_cons, List.not_mem_nil, false_implies, implies_true,
      and_true]
    refine ⟨⟨[], _, rfl, ?_, rfl⟩, ⟨["data"], _, rfl, ?_, rfl⟩, ⟨["data"], _, rfl, ?_, rfl⟩,
      ⟨["data"], _, rfl, ?_, rfl⟩, ⟨["data"], _, rfl, ?_, rfl⟩⟩ <;>
      exact ⟨⟨by decide, by decide⟩, by decide, by decide, by decide⟩

theorem find_data : fewTickers.find "data" = .ok (["data"], .directory) := by
  rfl

theorem listing_complete_history_own_fewTickers :
    fewTickers.IsSound ∧ fewTickers.find "data" = .ok (["data"], .directory) ∧
    ∃ listed,
      ((market "data" : Market (StateM FileTree)).listing .day).run fewTickers =
        (.ok listed, fewTickers) ∧
      "A" ∈ listed ∧ "A_week" ∈ listed ∧
      ((market "data" : Market (StateM FileTree)).history "A_week" .day 5).run fewTickers =
        ((readHistory "A_week" "data/A_week_day.csv" 5 (textOf oneBar)).mapError .failure,
          fewTickers) := by
  refine ⟨isSound_fewTickers, find_data, ?_⟩
  obtain ⟨⟨listed, hlisting, hlisted, hhistory⟩, -⟩ :=
    listing_complete_history_own isSound_fewTickers find_data .day
  have hentry : (["data"] ++ [fileName "A" .day], .file oneBar) ∈ fewTickers.items :=
    List.mem_of_getElem? (i := 1) rfl
  have hentry' : (["data"] ++ [fileName "A_week" .day], .file oneBar) ∈ fewTickers.items :=
    List.mem_of_getElem? (i := 2) rfl
  have hA : "A" ∈ listed := (hlisted.complete "A").mpr ⟨by decide, _, hentry⟩
  have hweek : "A_week" ∈ listed := (hlisted.complete "A_week").mpr ⟨by decide, _, hentry'⟩
  have hpath : Path.join "data" (fileName "A_week" .day) = "data/A_week_day.csv" := by decide
  have hrun := (hhistory "A_week" hweek oneBar hentry').2 5
  rw [hpath, if_pos (by decide)] at hrun
  exact ⟨listed, hlisting, hA, hweek, hrun⟩

/-- The path of the directory with slashes after it. -/
def slashed (n : Nat) : String := "data" ++ String.ofList (List.replicate n '/')

theorem slashed_succ (n : Nat) : slashed (n + 1) = slashed n ++ "/" := by
  rw [slashed, slashed, List.replicate_succ', String.ofList_append, ← String.append_assoc]

theorem utf8ByteSize_slashed (n : Nat) : (slashed n).utf8ByteSize = n + 4 := by
  induction n with
  | zero => rfl
  | succ n ih => rw [slashed_succ, String.utf8ByteSize_append, ih]; rfl

theorem names_slashed (n : Nat) : Path.names (slashed n) = ["data"] := by
  induction n with
  | zero => rfl
  | succ n ih => rw [slashed_succ, Path.names_append_slash, ih]

theorem find_slashed {n : Nat} (hfits : n + 5 < FileTree.longestPath) :
    fewTickers.find (slashed (n + 1)) = .ok (["data"], .directory) := by
  have hcheck : FileTree.checkPath (slashed (n + 1)) = .ok () := by
    refine FileTree.checkPath_eq_ok_iff.mpr ⟨?_, ?_, ?_⟩
    · simp [slashed, String.toList_append]
    · rw [slashed_succ]
      simp
    · rw [utf8ByteSize_slashed]
      omega
  have hslash : (slashed (n + 1)).toList.getLast? = some '/' := by
    rw [slashed_succ]
    simp [String.toList_append]
  rw [FileTree.find, hcheck, FileTree.steps, names_slashed, if_pos hslash]
  rfl

theorem isOk_readHistory_oneBar (ticker path : String) (limit : Nat) :
    (readHistory ticker path limit (textOf oneBar)).isOk = true := by
  have hread : (textOf oneBar).toOption.map (fun text => (History.read text).isOk) = some true := by
    decide +kernel
  obtain ⟨text, htext, hread⟩ := Option.map_eq_some_iff.mp hread
  cases hcontents : textOf oneBar with
  | error e =>
      rw [hcontents] at htext
      cases htext
  | ok text' =>
      rw [hcontents] at htext
      cases htext
      unfold readHistory
      cases hbars : History.read text with
      | error e =>
          rw [hbars] at hread
          cases hread
      | ok bars => simp only [hbars]; rfl

/-- A listed ticker is not read from its entry, though this is a file with a bar, where the path of
the directory is too long. -/
theorem run_history_slashed :
    let path := Path.join (slashed 4085) (fileName "A" .day)
    fewTickers.IsSound ∧ fewTickers.find (slashed 4085) = .ok (["data"], .directory) ∧
    (["data"] ++ [fileName "A" .day], .file oneBar) ∈ fewTickers.items ∧
    (∃ listed, ((market (slashed 4085) : Market (StateM FileTree)).listing .day).run fewTickers =
      (.ok listed, fewTickers) ∧ "A" ∈ listed) ∧
    (readHistory "A" path 5 (textOf oneBar)).isOk = true ∧
    ((market (slashed 4085) : Market (StateM FileTree)).history "A" .day 5).run fewTickers =
      (fail (tooLong "A" path), fewTickers) := by
  intro path
  have hfind : fewTickers.find (slashed 4085) = .ok (["data"], .directory) :=
    find_slashed (by decide)
  have hentry : (["data"] ++ [fileName "A" .day], .file oneBar) ∈ fewTickers.items :=
    List.mem_of_getElem? (i := 1) rfl
  have hlong : ¬ path.utf8ByteSize < FileTree.longestPath := by
    have hstep := (isStep_fileName .day (by decide : '/' ∉ "A".toList)).1
    have hpath : path = slashed 4085 ++ fileName "A" .day := by
      rw [slashed_succ, ← Path.join_append_slash _ hstep, ← slashed_succ]
    rw [hpath, String.utf8ByteSize_append, utf8ByteSize_slashed]
    decide
  refine ⟨isSound_fewTickers, hfind, hentry, ?_, isOk_readHistory_oneBar "A" path 5, ?_⟩
  · obtain ⟨names, hnames⟩ := names_of_find hfind
    have hlisted := isListing_tickersOf isSound_fewTickers hnames hfind .day
    exact ⟨_, run_listing hnames .day, (hlisted.complete "A").mpr ⟨by decide, _, hentry⟩⟩
  · rw [run_history_of_entry isSound_fewTickers hfind hentry, if_neg hlong]
    rfl

end Screener.MarketDirectory
