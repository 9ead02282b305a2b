import Screener.Configuration.Service
import Screener.File.Tree
import Screener.Proofs.Decimal.Reader
import Screener.Proofs.Tickers

/-!
# Scan configurations that pass

What `ScanConfiguration.validate` promises about the settings, the service and the tickers of a
configuration.  The settings can be made and are the ones in the file.  Two things are not looked
at: where a database is, and the list of tickers.  Apart from these a configuration that passes
gives a service whenever its place for watchlists can be opened
(`ScanConfiguration.runs_of_validate`).

## Strategy

Both sides are reduced to values of the file.  A number that passes was read as a positive one, so
the standard value is taken only where the file has none (`configured_of_checkPositive`), and a
place for watchlists that passes is one of the two that can be made (`exists_storage`).
-/

namespace Screener

variable {file : KeyFile}

namespace KeyFile

/-! ## Numbers -/

theorem integer_of_string?_eq_none {sectionName key : String}
    (hnone : file.string? sectionName key = none) (standard : Int) :
    file.integer sectionName key standard = standard := by
  rw [integer]
  cases hvalue : file.value? sectionName key with
  | none => rfl
  | some value =>
      have hblank : Text.trim value.toList = [] := by
        simpa [string?, hvalue, Option.filter_eq_none_iff] using hnone
      have hread : Decimal.readInt64? value.toList = none :=
        Decimal.readInteger?_of_trim_eq_nil hblank
      simp [hread]

theorem integer_of_string? {sectionName key value : String}
    (hvalue : file.string? sectionName key = some value) (standard : Int) :
    file.integer sectionName key standard = (Decimal.readInt64? value.toList).getD standard := by
  rw [string?, Option.filter_eq_some_iff] at hvalue
  rw [integer, hvalue.1]
  rfl

end KeyFile

namespace ScanConfiguration

/-- What a key gives: its value as it is read, or the standard if it has none. -/
def Configured {α : Type} (file : KeyFile) (sectionName key : String) (read : String → Option α)
    (standard given : α) : Prop :=
  match file.string? sectionName key with
  | none => given = standard
  | some value => read value = some given

/-- An integer as it stands in a file. -/
def readInteger (value : String) : Option Int := Decimal.readInt64? value.toList

/-- A number that passes is given by the file, and is taken as it is. -/
theorem configured_of_checkPositive {sectionName key : String}
    (hcheck : checkPositive file sectionName key = .ok ()) {standard : Int} (hpos : 1 ≤ standard) :
    Configured file sectionName key readInteger standard
      (max (file.integer sectionName key standard) 1).toNat := by
  unfold checkPositive at hcheck
  unfold Configured
  cases hvalue : file.string? sectionName key with
  | none =>
      simp only [KeyFile.integer_of_string?_eq_none hvalue]
      omega
  | some value =>
      simp only [hvalue, KeyFile.integer_of_string? hvalue] at hcheck ⊢
      cases hread : Decimal.readInt64? value.toList with
      | none => simp [hread] at hcheck
      | some number =>
          simp only [hread, Option.getD_some] at hcheck ⊢
          have hsmall : ¬number < 1 := by
            intro h
            rw [if_pos h] at hcheck
            cases hcheck
          rw [readInteger, hread, Option.some.injEq]
          omega

theorem configured_of_timeframe {sectionName key : String} {timeframe : Timeframe}
    (htimeframe : file.timeframe sectionName key = .ok timeframe) :
    Configured file sectionName key Timeframe.read? .day timeframe := by
  unfold KeyFile.timeframe at htimeframe
  unfold Configured
  cases hvalue : file.string? sectionName key with
  | none =>
      simp only [hvalue] at htimeframe ⊢
      cases htimeframe
      rfl
  | some value =>
      simp only [hvalue, readTimeframe] at htimeframe ⊢
      cases hread : Timeframe.read? value with
      | none => simp [hread] at htimeframe
      | some found =>
          simp only [hread, Except.ok.injEq] at htimeframe
          rw [htimeframe]

/-- Settings with what the file gives for them. -/
structure Configures (file : KeyFile) (settings : Settings) : Prop where
  historyLimit : Configured file "scan" "history_limit" readInteger 200 settings.historyLimit
  maxConcurrency : Configured file "scan" "max_concurrency" readInteger 8 settings.maxConcurrency
  snapshotTimeframe : Configured file "scan" "snapshot_timeframe" Timeframe.read? .day
    settings.snapshotTimeframe

theorem validate_eq_ok_iff :
    validate file = .ok () ↔ (∃ path, file.string? "data" "path" = some path) ∧
      checkPositive file "scan" "history_limit" = .ok () ∧
      checkPositive file "scan" "max_concurrency" = .ok () ∧
      (∃ timeframe, file.timeframe "scan" "snapshot_timeframe" = .ok timeframe) ∧
      checkStore file = .ok () := by
  unfold validate
  simp only [bind_eq_ok_iff, discard_eq_ok_iff, KeyFile.require_eq_ok_iff]
  constructor
  · rintro ⟨_, hpath, _, hlimit, _, hconcurrency, _, htimeframe, hstore⟩
    exact ⟨hpath, hlimit, hconcurrency, htimeframe, hstore⟩
  · rintro ⟨hpath, hlimit, hconcurrency, htimeframe, hstore⟩
    exact ⟨(), hpath, (), hlimit, (), hconcurrency, (), htimeframe, hstore⟩

theorem exists_settings (hvalid : validate file = .ok ()) :
    ∃ given, settings file = .ok given ∧ Configures file given := by
  obtain ⟨-, hlimit, hconcurrency, ⟨timeframe, htimeframe⟩, -⟩ := validate_eq_ok_iff.mp hvalid
  have hsettings : settings file = .ok
      { historyLimit := (max (file.integer "scan" "history_limit" 200) 1).toNat
        maxConcurrency := (max (file.integer "scan" "max_concurrency" 8) 1).toNat
        snapshotTimeframe := timeframe } := by
    rw [settings, htimeframe]
    rfl
  refine ⟨_, hsettings, ?_⟩
  constructor
  · exact configured_of_checkPositive hlimit (by decide)
  · exact configured_of_checkPositive hconcurrency (by decide)
  · exact configured_of_timeframe htimeframe

/-! ## The place for watchlists -/

/-- The name of the place for watchlists. -/
def storeName (file : KeyFile) : String :=
  Text.trimmed ((file.string? "watchlist" "store").getD "memory")

theorem storeName_of_checkStore (hcheck : checkStore file = .ok ()) :
    storeName file = "memory" ∨ storeName file = "sqlite" := by
  unfold checkStore at hcheck
  unfold storeName
  cases hstore : file.string? "watchlist" "store" with
  | none => exact .inl rfl
  | some store =>
      simp only [hstore] at hcheck
      split at hcheck
      · next hmem => simpa [storeNames] using hmem
      · cases hcheck

/-- The file asks for a database but does not tell where it is. -/
def LacksDatabase (file : KeyFile) : Prop :=
  storeName file = "sqlite" ∧ file.string? "sqlite" "path" = none

theorem storage_eq : storage file =
    if storeName file = "memory" then .ok .memory
    else if storeName file = "sqlite" then
      (file.require "sqlite" "path").map fun path => .database path (connections file)
    else .error (.configInvalid "watchlist" "store" ("unsupported store: " ++ storeName file)) :=
  rfl

theorem storage_of_lacksDatabase (hlacks : LacksDatabase file) :
    storage file = .error (.configMissing "sqlite" "path") := by
  obtain ⟨hname, hpath⟩ := hlacks
  rw [storage_eq, hname, KeyFile.require, hpath]
  rfl

theorem exists_storage (hcheck : checkStore file = .ok ()) (hplace : ¬LacksDatabase file) :
    ∃ place, storage file = .ok place := by
  rw [storage_eq]
  rcases storeName_of_checkStore hcheck with hname | hname
  · exact ⟨.memory, by rw [hname]; rfl⟩
  · cases hpath : file.string? "sqlite" "path" with
    | none => exact absurd ⟨hname, hpath⟩ hplace
    | some path =>
        exact ⟨.database path (connections file), by rw [hname, KeyFile.require, hpath]; rfl⟩

/-! ## The service -/

/-- A service for the data in a directory. -/
def serviceOn {m : Type → Type} [Monad m] [Files m] [Tasks m] (path : String)
    (settings : Settings) (keeper : Keeper (StateT Shelf m)) : Service (StateT Shelf m) :=
  { market := (MarketDirectory.market path).lift, keeper, settings, startTask := Tasks.start }

theorem service_eq {m : Type → Type} [Monad m] [LawfulMonad m] [Files m] [Tasks m] {path : String}
    {given : Settings} (hpath : file.string? "data" "path" = some path)
    (hsettings : settings file = .ok given) :
    (service file : m (Attempt (Service (StateT Shelf m)))) =
      Except.map (serviceOn path given) <$> openStorage file := by
  have hdata : dataPath file = .ok path := KeyFile.require_eq_ok_iff.mpr hpath
  rw [map_eq_pure_bind, service, hdata, hsettings]
  rfl

/-! ## The tickers -/

/-- The tickers of the file, if there are any, make a list. -/
def TickersProper (file : KeyFile) : Prop :=
  ∀ list ∈ file.string? "scan" "tickers", Tickers.Proper list

theorem tickers_of_proper (hproper : TickersProper file) :
    tickers none file = .ok ((file.string? "scan" "tickers").map Tickers.named) := by
  unfold tickers
  cases hlist : file.string? "scan" "tickers" with
  | none => rfl
  | some list =>
      have hread : Tickers.read list = .ok (Tickers.named list) :=
        Tickers.read_eq_ok_iff.mpr ⟨hproper list hlist, rfl⟩
      simp only [hread]
      rfl

theorem tickers_of_not_proper (himproper : ¬TickersProper file) :
    ∃ e : TickerError,
      tickers none file = .error (.configInvalid "scan" "tickers" e.message) := by
  unfold tickers
  cases hlist : file.string? "scan" "tickers" with
  | none => exact absurd (by simp [TickersProper, hlist]) himproper
  | some list =>
      cases hread : Tickers.read list with
      | ok found =>
          have hproper : Tickers.Proper list := (Tickers.read_eq_ok_iff.mp hread).1
          exact absurd (by simpa [TickersProper, hlist] using hproper) himproper
      | error e => exact ⟨e, by simp only [hread]⟩

/-! ## What passing is worth -/

/-- What a configuration gives, up to opening its place for watchlists. -/
structure Runs (file : KeyFile) (path : String) (given : Settings) : Prop where
  data : file.string? "data" "path" = some path
  settings : ScanConfiguration.settings file = .ok given
  configures : Configures file given
  /-- Opening the place for watchlists is all that is left to be done for the service. -/
  service : ¬LacksDatabase file → ∃ place, storage file = .ok place ∧
    ∀ {m : Type → Type} [Monad m] [LawfulMonad m] [Files m] [Tasks m],
      (ScanConfiguration.service file : m _) = Except.map (serviceOn path given) <$> place.open
  missing : LacksDatabase file →
    ∀ {m : Type → Type} [Monad m] [LawfulMonad m] [Files m] [Tasks m],
      (ScanConfiguration.service file : m _) = pure (fail (.configMissing "sqlite" "path"))
  tickers : TickersProper file →
    ScanConfiguration.tickers none file = .ok ((file.string? "scan" "tickers").map Tickers.named)
  improper : ¬TickersProper file → ∃ e : TickerError,
    ScanConfiguration.tickers none file = .error (.configInvalid "scan" "tickers" e.message)

/-- **A configuration that passes can be run**, but for a database without a path and for a list
that is no list of tickers. -/
theorem runs_of_validate (file : KeyFile) (hvalid : validate file = .ok ()) :
    ∃ path given, Runs file path given := by
  obtain ⟨given, hsettings, hconfigures⟩ := exists_settings hvalid
  obtain ⟨⟨path, hpath⟩, -, -, -, hstore⟩ := validate_eq_ok_iff.mp hvalid
  refine ⟨path, given, hpath, hsettings, hconfigures, fun hplace => ?_, fun hlacks => ?_, ?_, ?_⟩
  · obtain ⟨place, hstorage⟩ := exists_storage hstore hplace
    refine ⟨place, hstorage, ?_⟩
    intro m _ _ _ _
    rw [service_eq hpath hsettings, openStorage, hstorage]
  · intro m _ _ _ _
    rw [service_eq hpath hsettings, openStorage, storage_of_lacksDatabase hlacks, map_pure]
    rfl
  · exact tickers_of_proper
  · exact tickers_of_not_proper

/-- A configuration with a database, a signed number and a blank one. -/
def withDatabase : KeyFile where
  headings := ["sqlite", "watchlist", "scan", "data"]
  entries := [
    ⟨"sqlite", "path", some "lists.db"⟩,
    ⟨"watchlist", "store", some "sqlite"⟩,
    ⟨"scan", "tickers", some "btc, eth"⟩,
    ⟨"scan", "snapshot_timeframe", some "1w"⟩,
    ⟨"scan", "max_concurrency", some ""⟩,
    ⟨"scan", "history_limit", some "+60"⟩,
    ⟨"data", "path", some "data"⟩]

theorem runs_of_validate_withDatabase :
    ∃ path, Runs withDatabase path
      { historyLimit := 60, maxConcurrency := 8, snapshotTimeframe := .week } := by
  obtain ⟨path, given, hruns⟩ := runs_of_validate withDatabase rfl
  have hgiven : settings withDatabase =
      .ok { historyLimit := 60, maxConcurrency := 8, snapshotTimeframe := .week } := rfl
  rw [hruns.settings, Except.ok.injEq] at hgiven
  exact ⟨path, hgiven ▸ hruns⟩

/-- A configuration with a database that is nowhere. -/
def withoutPath : KeyFile where
  headings := ["watchlist", "data"]
  entries := [⟨"watchlist", "store", some "sqlite"⟩, ⟨"data", "path", some "data"⟩]

/-- A configuration with a ticker that occurs twice. -/
def withRepetition : KeyFile where
  headings := ["scan", "data"]
  entries := [⟨"scan", "tickers", some "A,B,a"⟩, ⟨"data", "path", some "data"⟩]

/-- A configuration that passes may lack a path or have a list that cannot be read. -/
theorem not_runs_of_validate :
    (validate withoutPath = .ok () ∧ (service withoutPath : StateM FileTree _) =
      pure (fail (.configMissing "sqlite" "path"))) ∧
    (validate withRepetition = .ok () ∧ tickers none withRepetition =
      .error (.configInvalid "scan" "tickers" "duplicate ticker: A")) :=
  ⟨⟨rfl, rfl⟩, rfl, rfl⟩

end ScanConfiguration

end Screener
