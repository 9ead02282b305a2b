import Screener.Scan.Service

/-!
# Permits

Tasks that share permits are done in the order in which they wait, and as long as there is a permit
it does not matter how many there are (`underPermits_eq_mapM`).  Without one no task begins.  A scan
always has a permit, so every ticker of a watchlist is dealt with (`Service.outcomes_eq_mapM`).
-/

namespace Screener

section Waiting

variable {m : Type → Type} [Monad m] {α β : Type} {work : α → m β}

/-- Without permits all tasks wait for ever. -/
theorem underPermits_zero (waiting : List α) : underPermits work 0 [] waiting = pure [] := by
  rw [underPermits]
  intro free next rest hfree
  cases hfree

/-- With a permit all tasks are done, those first that hold one. -/
theorem underPermits_eq_mapM [LawfulMonad m] {free : Nat} {holding waiting : List α}
    (hpermit : 0 < free + holding.length) :
    underPermits work free holding waiting = (holding ++ waiting).mapM work := by
  induction free, holding, waiting using underPermits.induct with
  | case1 free holding next waiting ih =>
      rw [underPermits, ih (by rw [List.length_append, List.length_singleton]; omega),
        List.append_assoc]
      rfl
  | case2 free first holding waiting hwaits ih =>
      -- the permit that is given back is there for whoever is next
      rw [underPermits, ih (by omega), List.cons_append, List.mapM_cons]
      exact hwaits
  | case3 free waiting hwaits =>
      cases waiting with
      | nil =>
          rw [underPermits]
          · rfl
          · intro free next rest _ hwaiting
            cases hwaiting
      | cons next waiting =>
          cases free with
          | zero => exact absurd hpermit (Nat.lt_irrefl 0)
          | succ free => exact (hwaits free next waiting rfl rfl).elim

end Waiting

namespace Settings

theorem permits_pos (settings : Settings) : 0 < settings.permits :=
  Nat.le_max_right settings.maxConcurrency 1

end Settings

namespace Service

variable {m : Type → Type} [Monad m] [LawfulMonad m] (service : Service m)

/-- All tasks of a watchlist are started first, and then all of them are done. -/
theorem outcomes_eq_mapM (rule : HistoryRule) (watchlist : List String) :
    service.outcomes rule watchlist =
      service.startTasks watchlist >>= fun tasks => tasks.mapM (service.scanned rule) := by
  have hpermit : 0 < service.settings.permits + ([] : List (String × String)).length :=
    service.settings.permits_pos
  simp only [outcomes, underPermits_eq_mapM hpermit, List.nil_append]

end Service

end Screener
