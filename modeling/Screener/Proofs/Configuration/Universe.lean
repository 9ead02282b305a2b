import Screener.CommandLine.Run
import Screener.Proofs.Records.Naming
import Screener.Proofs.Tickers.NormalForm

/-!
# The tickers of a scan

The tickers of a scan are read from a text, which is given in the call of the program or in the
configuration; if there is none, they are what the market lists.  What is read is in normal form, and a
listing need not be.  So a listing that is written as such a text stands for itself exactly if its
tickers are in normal form, and no text asks for a ticker that is not.
-/

namespace Screener

namespace ScanConfiguration

variable {asked asked' : Option String} {file file' : KeyFile} {text : String}

/-- The tickers of a scan: those that are asked for, or else those that the market lists. -/
def scanned {m : Type → Type} [Monad m] (market : Market m) (asked : Option String)
    (file : KeyFile) (timeframe : Timeframe) : m (Attempt (List String)) :=
  match tickers asked file with
  | .error failure => pure (fail failure)
  | .ok configured => market.resolve configured timeframe

/-- What a run of the program scans. -/
theorem run_tickers_eq {m : Type → Type} [Monad m] [LawfulMonad m] (preparation : Run.Preparation m)
    (asked : Option String) :
    Run.tickers preparation asked = Run.attempt (scanned preparation.service.market asked
      preparation.config preparation.service.settings.snapshotTimeframe) := by
  rw [Run.tickers, Run.settle, scanned]
  cases tickers asked preparation.config with
  | error failure =>
      apply ExceptT.ext
      rw [ExceptT.run_bind]
      simp only [Except.mapError, ExceptT.run_mk, pure_bind, Run.attempt]
      funext console
      simp only [StateT.lift, pure_bind]
      rfl
  | ok configured =>
      apply ExceptT.ext
      rw [ExceptT.run_bind]
      simp only [Except.mapError, ExceptT.run_mk, pure_bind, Run.attempt]

/-- Whether a text is where the tickers are read from: it is in the call, or there is none and it is
in the configuration. -/
def Asks (asked : Option String) (file : KeyFile) (text : String) : Prop :=
  asked = some text ∨ asked = none ∧ file.string? "scan" "tickers" = some text

/-- Whether there is no text to read the tickers from. -/
def AsksNothing (asked : Option String) (file : KeyFile) : Prop :=
  asked = none ∧ file.string? "scan" "tickers" = none

theorem tickers_of_asks (hasks : Asks asked file text) :
    ∃ key, tickers asked file = match Tickers.read text with
      | .ok tickers => .ok (some tickers)
      | .error e => .error (.configInvalid "scan" key e.message) := by
  rcases hasks with rfl | ⟨rfl, hfile⟩
  · exact ⟨"--tickers", rfl⟩
  · refine ⟨"tickers", ?_⟩
    cases hread : Tickers.read text <;> simp only [tickers, hfile, hread]

theorem tickers_of_asksNothing (hasks : AsksNothing asked file) : tickers asked file = .ok none := by
  simp only [tickers, hasks.1, hasks.2]

/-- A text gives the tickers that are read from it, and it gives none if it cannot be read. -/
theorem run_scanned_eq_ok_iff {σ : Type} (market : Market (StateM σ)) (timeframe : Timeframe)
    (hasks : Asks asked file text) {s : σ} {chosen : List String} :
    (scanned market asked file timeframe).run s = (.ok chosen, s) ↔
      Tickers.read text = .ok chosen := by
  obtain ⟨key, htickers⟩ := tickers_of_asks hasks
  rw [scanned, htickers]
  cases hread : Tickers.read text with
  | error e => exact ⟨nofun, nofun⟩
  | ok found =>
      have hfound : found.isEmpty = false := by
        obtain ⟨-, rfl⟩ := Tickers.read_eq_ok_iff.mp hread
        exact List.isEmpty_eq_false_iff.mpr (Tickers.named_ne_nil text)
      have hrun : (market.resolve (some found) timeframe).run s = (.ok found, s) := by
        simp only [Market.resolve, StateT.run_pure, pure_bind, Except.bind, hfound]
        rfl
      show (market.resolve (some found) timeframe).run s = _ ↔ _
      rw [hrun]
      constructor
      · rintro ⟨⟩
        rfl
      · rintro ⟨⟩
        rfl

/-! ### Listed tickers -/

section

open MarketDirectory

variable {tree : FileTree} {directory : String} {place : List String}

/-- Without a text the tickers of a listing are scanned, unless there are none. -/
theorem run_scanned_of_listing {timeframe : Timeframe} {listed : List String}
    (hlisting : ((market directory : Market (StateM FileTree)).listing timeframe).run tree =
      (.ok listed, tree)) (hgiven : listed ≠ []) (hasks : AsksNothing asked file) :
    (scanned (market directory : Market (StateM FileTree)) asked file timeframe).run tree =
      (.ok listed, tree) := by
  have hlisting : ((market directory : Market (StateM FileTree)).listing timeframe).run tree =
      pure (.ok listed, tree) := hlisting
  rw [scanned, tickers_of_asksNothing hasks]
  simp only [Market.resolve, StateT.run_bind, hlisting, StateT.run_pure, pure_bind, Except.bind,
    List.isEmpty_eq_false_iff.mpr hgiven]
  rfl

/-- The tickers that a directory lists can stand in a path. -/
theorem slash_not_mem_of_mem {timeframe : Timeframe} {listed : List String}
    (hsound : tree.IsSound) (hlisted : IsListing tree place timeframe listed) {ticker : String}
    (hticker : ticker ∈ listed) : '/' ∉ ticker.toList := by
  obtain ⟨-, item, hentry⟩ := (hlisted.complete ticker).mp hticker
  obtain ⟨above, last, hplace, hname, -⟩ := hsound.below _ hentry
  obtain ⟨-, hlast⟩ := List.append_inj' hplace rfl
  obtain rfl := List.singleton_inj.mp hlast
  have hsolid := hname.solid
  rw [fileName_toList, List.mem_append, not_or] at hsolid
  exact hsolid.1

/-- **Listing and naming tickers agree on tickers in normal form.**  If a listing is not empty, then
writing it as a text, with commas between its tickers, gives the same tickers in the same order as
asking for none exactly if all of them are in normal form.  A listed ticker in normal form is selected by
its name, and its history is read from the file that it was listed for.  A listed ticker that is not in
normal form is selected by no text, and what is selected instead has another file. -/
theorem scanned_listing (hsound : tree.IsSound)
    (hdirectory : tree.find directory = .ok (place, .directory)) (timeframe : Timeframe) :
    let source : Market (StateM FileTree) := market directory
    let path : String → String := fun ticker => Path.join directory (fileName ticker timeframe)
    ∃ listed, (source.listing timeframe).run tree = (.ok listed, tree) ∧
      IsListing tree place timeframe listed ∧
      (listed ≠ [] → ∀ asked file asked' file',
        Asks asked file (",".intercalate listed) → AsksNothing asked' file' →
        (scanned source asked' file' timeframe).run tree = (.ok listed, tree) ∧
        ((scanned source asked file timeframe).run tree =
            (scanned source asked' file' timeframe).run tree ↔
          ∀ ticker ∈ listed, Tickers.IsNormal ticker)) ∧
      (∀ ticker ∈ listed, Tickers.IsNormal ticker → ∀ asked file, Asks asked file ticker →
        (scanned source asked file timeframe).run tree = (.ok [ticker], tree) ∧
        ∀ bytes, (place ++ [fileName ticker timeframe], .file bytes) ∈ tree.items →
          (path ticker).utf8ByteSize < FileTree.longestPath → ∀ limit,
          (source.history ticker timeframe limit).run tree =
            ((readHistory ticker (path ticker) limit (textOf bytes)).mapError .failure, tree)) ∧
      ∀ ticker ∈ listed, ¬Tickers.IsNormal ticker → ∀ asked file text chosen,
        Asks asked file text →
        (scanned source asked file timeframe).run tree = (.ok chosen, tree) →
        ∀ other ∈ chosen, other ≠ ticker ∧
          ('/' ∉ other.toList →
            Path.components (path other) ≠ Path.components (path ticker)) := by
  intro source path
  obtain ⟨names, hnames⟩ := names_of_find hdirectory
  have hlisting := run_listing hnames timeframe
  have hlisted := isListing_tickersOf hsound hnames hdirectory timeframe
  refine ⟨_, hlisting, hlisted, ?_, ?_, ?_⟩
  · intro hgiven asked file asked' file' hasks hnothing
    have hall := run_scanned_of_listing hlisting hgiven hnothing
    refine ⟨hall, ?_⟩
    rw [hall, run_scanned_eq_ok_iff source timeframe hasks,
      Tickers.read_intercalate_eq_ok_iff hgiven, and_iff_right hlisted.once]
  · intro ticker hticker hnormal asked file hasks
    constructor
    · rw [run_scanned_eq_ok_iff source timeframe hasks]
      exact (Tickers.read_intercalate_eq_ok_iff (List.cons_ne_nil ticker [])).mpr
        ⟨List.nodup_singleton ticker, by simpa using hnormal⟩
    · intro bytes hentry hfits limit
      rw [run_history_of_entry hsound hdirectory hentry, if_pos hfits]
  · intro ticker hticker hnormal asked file text chosen hasks hchosen other hother
    have hread := (run_scanned_eq_ok_iff source timeframe hasks).mp hchosen
    have hne : other ≠ ticker := by
      rintro rfl
      exact hnormal (Tickers.isNormal_of_read_eq_ok hread hother)
    refine ⟨hne, fun hsolid hpaths => hne ?_⟩
    exact (components_join_inj hsolid (slash_not_mem_of_mem hsound hlisted hticker) hpaths).1

/-- A configuration that says where the data is and nothing else. -/
def dataOnly : KeyFile where
  headings := ["data"]
  entries := [⟨"data", "path", some "data"⟩]

theorem not_isNormal_lowerCase : ¬Tickers.IsNormal "krw-btc" := by
  intro hnormal
  exact absurd hnormal.kept (by decide +kernel)

theorem isNormal_upperCase : Tickers.IsNormal "KRW-BTC" :=
  ⟨by decide, by decide, by decide +kernel⟩

theorem eq_of_mem_fewTickers {ticker : String} {item : FileTree.Item}
    (hentry : (["data"] ++ [fileName ticker .month], item) ∈ fewTickers.items) :
    ticker = "KRW-BTC" := by
  simp only [fewTickers, List.mem_cons, Prod.mk.injEq, List.not_mem_nil, or_false,
    List.cons_append, List.nil_append, List.cons.injEq, reduceCtorEq, and_false, false_and, and_true,
    true_and, false_or] at hentry
  rcases hentry with ⟨hname, -⟩ | ⟨hname, -⟩ | ⟨hname, -⟩ | ⟨hname, -⟩
  · exact absurd (fileName_inj.mp (hname.trans (rfl : _ = fileName "A" .day))).2 (by decide)
  · exact absurd (fileName_inj.mp (hname.trans (rfl : _ = fileName "A_week" .day))).2 (by decide)
  · exact absurd (fileName_inj.mp (hname.trans (rfl : _ = fileName "krw-btc" .week))).2 (by decide)
  · exact (fileName_inj.mp (hname.trans (rfl : _ = fileName "KRW-BTC" .month))).1

/-- The months of the directory are listed in upper case and can be asked for, its weeks cannot. -/
theorem scanned_listing_fewTickers :
    let source : Market (StateM FileTree) := market "data"
    fewTickers.IsSound ∧ fewTickers.find "data" = .ok (["data"], .directory) ∧
    (∃ listed, listed ≠ [] ∧ (source.listing .month).run fewTickers = (.ok listed, fewTickers) ∧
      (scanned source (some (",".intercalate listed)) dataOnly .month).run fewTickers =
        (scanned source none dataOnly .month).run fewTickers) ∧
    ∃ listed, (source.listing .week).run fewTickers = (.ok listed, fewTickers) ∧
      "krw-btc" ∈ listed ∧
      (scanned source (some "krw-btc") dataOnly .week).run fewTickers = (.ok ["KRW-BTC"], fewTickers) ∧
      Path.components (Path.join "data" (fileName "KRW-BTC" .week)) ≠
        Path.components (Path.join "data" (fileName "krw-btc" .week)) := by
  intro source
  refine ⟨isSound_fewTickers, find_data, ?_, ?_⟩
  · obtain ⟨listed, hlisting, hlisted, hagree, -⟩ :=
      scanned_listing isSound_fewTickers find_data .month
    have hmem : "KRW-BTC" ∈ listed :=
      (hlisted.complete "KRW-BTC").mpr ⟨by decide, _, List.mem_of_getElem? (i := 4) rfl⟩
    have hgiven : listed ≠ [] := List.ne_nil_of_mem hmem
    refine ⟨listed, hgiven, hlisting, ?_⟩
    refine (hagree hgiven _ dataOnly none dataOnly (.inl rfl) ⟨rfl, rfl⟩).2.mpr fun ticker hticker => ?_
    obtain ⟨-, item, hentry⟩ := (hlisted.complete ticker).mp hticker
    rw [eq_of_mem_fewTickers hentry]
    exact isNormal_upperCase
  · obtain ⟨listed, hlisting, hlisted, -, -, hother⟩ :=
      scanned_listing isSound_fewTickers find_data .week
    have hmem : "krw-btc" ∈ listed :=
      (hlisted.complete "krw-btc").mpr ⟨by decide, _, List.mem_of_getElem? (i := 3) rfl⟩
    have hasks : Asks (some "krw-btc") dataOnly "krw-btc" := .inl rfl
    have hrun : (scanned source (some "krw-btc") dataOnly .week).run fewTickers =
        (.ok ["KRW-BTC"], fewTickers) :=
      (run_scanned_eq_ok_iff source .week hasks).mpr (by decide +kernel)
    refine ⟨listed, hlisting, hmem, hrun, ?_⟩
    exact (hother _ hmem not_isNormal_lowerCase _ _ _ _ hasks hrun _ List.mem_cons_self).2 (by decide)

/-- A listing that is asked for as it is written need not be what is scanned without asking. -/
theorem scanned_text_ne_listing :
    let source : Market (StateM FileTree) := market "data"
    ∃ listed, listed ≠ [] ∧ (source.listing .week).run fewTickers = (.ok listed, fewTickers) ∧
      (scanned source none dataOnly .week).run fewTickers = (.ok listed, fewTickers) ∧
      (scanned source (some (",".intercalate listed)) dataOnly .week).run fewTickers ≠
        (.ok listed, fewTickers) := by
  intro source
  obtain ⟨names, hnames⟩ := names_of_find find_data
  have hlisting := run_listing hnames .week
  have hlisted := isListing_tickersOf isSound_fewTickers hnames find_data .week
  have hmem : "krw-btc" ∈ tickersOf .week names :=
    (hlisted.complete "krw-btc").mpr ⟨by decide, _, List.mem_of_getElem? (i := 3) rfl⟩
  have hgiven := List.ne_nil_of_mem hmem
  refine ⟨_, hgiven, hlisting, run_scanned_of_listing hlisting hgiven ⟨rfl, rfl⟩, fun hsame => ?_⟩
  have hread := (run_scanned_eq_ok_iff source .week (.inl rfl)).mp hsame
  exact not_isNormal_lowerCase (Tickers.isNormal_of_read_eq_ok hread hmem)

end

end ScanConfiguration

end Screener
