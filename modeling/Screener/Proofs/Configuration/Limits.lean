import Screener.Proofs.Configuration.Scan

/-!
# Numbers of a configuration

Three numbers of a configuration go to something that takes no number at all: bars of history, permits
to scan a ticker and connections to a database.  `ScanConfiguration.validate` looks at the first two and
refuses what is not positive, so they are taken as they stand in the file (`PassesOn`).  It sets no upper
bound, and with more permits than can be given out the second scan does not begin.

The connections are not looked at.  A number below one counts as one, but then the number is cut to 32
bits, so a multiple of `2 ^ 32` becomes zero, and a database cannot be opened with no connections
(`Connects`).
-/

namespace Screener

namespace ScanConfiguration

variable {file : KeyFile}

/-! ## What the scan gets -/

/-- The second scan, as far as the number of permits decides about it. -/
structure Permitted (given : Settings) : Prop where
  runs : given.permits ≤ Settings.mostPermits →
    ∀ {m : Type → Type} [Monad m] [LawfulMonad m] (service : Service m), service.settings = given →
      ∀ rules rule watchlist, rules.history = some rule →
        service.secondScan rules watchlist =
          (fun outcomes => .ok (.ofOutcomes outcomes)) <$> service.outcomes rule watchlist
  crashes : Settings.mostPermits < given.permits →
    ∀ {m : Type → Type} [Monad m] (service : Service m), service.settings = given →
      ∀ rules rule watchlist, rules.history = some rule → ∃ message,
        service.secondScan rules watchlist = pure (.error (.crash message))

theorem permitted (given : Settings) : Permitted given where
  runs := by
    rintro hpermits m _ _ service rfl rules rule watchlist hrule
    have hcheck : service.settings.checkPermits = .ok () := if_pos hpermits
    rw [Service.secondScan, hrule, map_eq_pure_bind]
    simp only [hcheck]
  crashes := by
    rintro hpermits m _ service rfl rules rule watchlist hrule
    have hcheck : service.settings.checkPermits = .error _ := if_neg (Nat.not_le.mpr hpermits)
    rw [Service.secondScan, hrule]
    simp only [hcheck]
    exact ⟨_, rfl⟩

theorem one_le_of_settings_eq_ok {given : Settings} (hsettings : settings file = .ok given) :
    1 ≤ given.historyLimit ∧ 1 ≤ given.maxConcurrency := by
  obtain ⟨timeframe, -, hgiven⟩ := bind_eq_ok hsettings
  cases hgiven
  dsimp only
  omega

/-- Settings with the numbers of the file, none of them zero. -/
structure PassesOn (file : KeyFile) (given : Settings) : Prop where
  historyLimit : Configured file "scan" "history_limit" readInteger 200 given.historyLimit
  one_le_historyLimit : 1 ≤ given.historyLimit
  permits : Configured file "scan" "max_concurrency" readInteger 8 given.permits
  one_le_permits : 1 ≤ given.permits

theorem passesOn (hvalid : validate file = .ok ()) :
    ∃ given, settings file = .ok given ∧ PassesOn file given := by
  obtain ⟨given, hsettings, hconfigures⟩ := exists_settings hvalid
  obtain ⟨hlimit, hconcurrency⟩ := one_le_of_settings_eq_ok hsettings
  have hpermits : given.permits = given.maxConcurrency := Nat.max_eq_left hconcurrency
  refine ⟨given, hsettings, hconfigures.historyLimit, hlimit, ?_, ?_⟩
  · rw [hpermits]
    exact hconfigures.maxConcurrency
  · rwa [hpermits]

/-! ## What the database gets -/

/-- The connections for a number in the file, and what becomes of a database at a path. -/
structure Connects (file : KeyFile) (path : String) (size : Int) : Prop where
  small : size < 1 → connections file = 1
  exact : 1 ≤ size → size < 4294967296 → connections file = size
  cut : 4294967296 ≤ size → connections file = size % 4294967296
  zero : connections file = 0 ↔ 1 ≤ size ∧ 4294967296 ∣ size
  opens : connections file ≠ 0 → ∀ {m : Type → Type} [Monad m] [Files m],
    (openStorage file : m _) = openDatabase path
  crashes : connections file = 0 → ∀ {m : Type → Type} [Monad m] [Files m],
    (openStorage file : m _) = pure (.error (.crash "max_size must be positive"))

theorem connects {path : String} (hstore : storeName file = "sqlite")
    (hpath : file.string? "sqlite" "path" = some path) :
    Connects file path (file.integer "sqlite" "pool_size" 4) := by
  have hconnections : connections file =
      (max (file.integer "sqlite" "pool_size" 4) 1).toNat % 4294967296 := rfl
  have hstorage : storage file = .ok (.database path (connections file)) := by
    rw [storage_eq, hstore, KeyFile.require, hpath]
    rfl
  generalize file.integer "sqlite" "pool_size" 4 = size at hconnections
  refine ⟨by omega, by omega, by omega, by omega, fun hsome => ?_, fun hnone => ?_⟩
  · intro m _ _
    rw [openStorage, hstorage]
    exact if_neg hsome
  · intro m _ _
    rw [openStorage, hstorage]
    exact if_pos hnone

/-- **Where the numbers of a configuration that passes lead.**  Bars and permits are positive and are what
the file says; the second scan runs with them unless there are more permits than can be given out, and
then it crashes.  A database gets the connections that the file asks for if these are some and fit into
32 bits, and it can be opened unless the file asks for a positive multiple of `2 ^ 32`. -/
theorem numbers_of_validate (file : KeyFile) (hvalid : validate file = .ok ()) :
    (∃ given, settings file = .ok given ∧ PassesOn file given ∧ Permitted given) ∧
    ∀ path, storeName file = "sqlite" → file.string? "sqlite" "path" = some path →
      Connects file path (file.integer "sqlite" "pool_size" 4) := by
  obtain ⟨given, hsettings, hpasses⟩ := passesOn hvalid
  exact ⟨⟨given, hsettings, hpasses, permitted given⟩, fun path => connects⟩

/-- A configuration with more permits than can be given out and with `2 ^ 32` connections. -/
def tooLarge : KeyFile where
  headings := ["sqlite", "watchlist", "scan", "data"]
  entries := [
    ⟨"sqlite", "pool_size", some "4294967296"⟩,
    ⟨"sqlite", "path", some "lists.db"⟩,
    ⟨"watchlist", "store", some "sqlite"⟩,
    ⟨"scan", "max_concurrency", some "2305843009213693952"⟩,
    ⟨"data", "path", some "data"⟩]

theorem numbers_of_validate_tooLarge :
    validate tooLarge = .ok () ∧ storeName tooLarge = "sqlite" ∧
      tooLarge.string? "sqlite" "path" = some "lists.db" ∧
      (openStorage tooLarge : StateM FileTree _) =
        pure (.error (.crash "max_size must be positive")) ∧
      ∃ given, settings tooLarge = .ok given ∧ given.permits = 2305843009213693952 ∧
        ∀ service : Service (StateM FileTree), service.settings = given → ∃ message,
          service.secondScan { history := some { condition := "close > 0" } } ["A"] =
            pure (.error (.crash message)) := by
  have hvalid : validate tooLarge = .ok () := rfl
  have hstore : storeName tooLarge = "sqlite" := rfl
  have hpath : tooLarge.string? "sqlite" "path" = some "lists.db" := rfl
  obtain ⟨⟨given, hsettings, -, hpermitted⟩, hconnects⟩ := numbers_of_validate tooLarge hvalid
  have hnone : connections tooLarge = 0 := rfl
  have hpermits : given.permits = 2305843009213693952 := by
    have hgiven : settings tooLarge = .ok { maxConcurrency := 2305843009213693952 } := rfl
    rw [hsettings, Except.ok.injEq] at hgiven
    rw [hgiven]
    rfl
  have hmany : Settings.mostPermits < given.permits := by
    rw [hpermits]
    decide
  exact ⟨hvalid, hstore, hpath, (hconnects "lists.db" hstore hpath).crashes hnone, given, hsettings,
    hpermits, fun service hservice => hpermitted.crashes hmany service hservice _ _ _ rfl⟩

end ScanConfiguration

end Screener
