import Mathlib.Control.Basic
import Screener.CommandLine.Run

/-!
# What a part of a run comes to

A part of a run writes lines on the way and in the end gives a value or stops.  `Run.ComesTo`
forgets the lines: it relates the part to a computation that only reads files and may fail.  The
relation passes through the steps of a run (`Run.ComesTo.bind`), so two parts that differ in what
they write are compared by what they come to.
-/

namespace Screener.Run

variable {m : Type → Type} [Monad m] {α β : Type}

/-- What a part of a run ends with. -/
def result (part : Run m α) (console : Console) (shelf : Shelf) : m (Except Stop α) :=
  (fun ended => ended.1.1) <$> (part.run.run console).run shelf

/-- Whatever has been written and kept before, the part ends as the computation does. -/
def ComesTo (part : Run m α) (outcome : ExceptT Failure m α) : Prop :=
  ∀ console shelf, part.result console shelf = Except.mapError Stop.failure <$> outcome.run

/-- What the caller of a run learns of its end. -/
inductive Ending where
  | success
  | failure (status : Nat)
  | crash (message : Option String)
  deriving Repr, DecidableEq

/-- The ending of a run that ends with a result. -/
def ending : Except Stop α → Ending
  | .ok _ => .success
  | .error (.failure failure) => .failure failure.exitStatus
  | .error (.crash message) => .crash message

/-- A part of a run goes on after a value and stops otherwise. -/
theorem run_bind (part : Run m α) (next : α → Run m β) (console : Console)
    (shelf : Shelf) :
    ((part >>= next).run.run console).run shelf =
      (part.run.run console).run shelf >>= fun ended =>
        match ended.1.1 with
        | .ok value => ((next value).run.run ended.1.2).run ended.2
        | .error stop => pure ((.error stop, ended.1.2), ended.2) := by
  rw [ExceptT.run_bind, StateT.run_bind, StateT.run_bind]
  congr 1
  funext ended
  obtain ⟨⟨result, console⟩, shelf⟩ := ended
  cases result <;> rfl

variable [LawfulMonad m]

namespace ComesTo

theorem pure (value : α) : ComesTo (pure value : Run m α) (pure value) := by
  intro console shelf
  simp [result, Except.mapError]

theorem bind {part : Run m α} {outcome : ExceptT Failure m α} {next : α → Run m β}
    {rest : α → ExceptT Failure m β} (hpart : ComesTo part outcome)
    (hnext : ∀ value, ComesTo (next value) (rest value)) :
    ComesTo (part >>= next) (outcome >>= rest) := by
  intro console shelf
  -- what follows depends on how the part ends, but not on what it has written or kept
  let follow : Except Stop α → m (Except Stop β)
    | .ok value => Except.mapError Stop.failure <$> (rest value).run
    | .error stop => Pure.pure (.error stop)
  calc (part >>= next).result console shelf
      = (part.run.run console).run shelf >>= fun ended => follow ended.1.1 := by
        rw [result, run_bind, map_bind]
        congr 1
        funext ⟨⟨ended, console⟩, shelf⟩
        cases ended with
        | ok value => exact hnext value console shelf
        | error stop => rw [map_pure]
    _ = part.result console shelf >>= follow := by rw [result, bind_map_left]
    _ = outcome.run >>= fun ended => follow (ended.mapError .failure) := by
        rw [hpart console shelf, bind_map_left]
    _ = Except.mapError Stop.failure <$> (outcome >>= rest).run := by
        rw [ExceptT.run_bind, map_bind]
        congr 1
        funext ended
        cases ended with
        | ok value => rfl
        | error failure =>
            show _ = Except.mapError Stop.failure <$> (Pure.pure (.error failure) : m _)
            rw [map_pure]
            rfl

theorem settle (value : Except Failure α) :
    ComesTo (Run.settle value : Run m α) (ExceptT.mk (Pure.pure value)) := by
  intro console shelf
  simp [result, Run.settle]

theorem settleWith (computation : m (Except Failure α)) :
    ComesTo (Run.settleWith computation) (ExceptT.mk computation) := by
  intro console shelf
  simp [result, Run.settleWith, attempt]

/-- Writing a line comes to nothing. -/
theorem note (line : String) : ComesTo (Run.note line : Run m Unit) (Pure.pure ()) := by
  intro console shelf
  have hmodify : ∀ change : Console → Unit × Console,
      ((StateT.modifyGet change : StateT Console (StateT Shelf m) Unit).run console).run shelf =
        Pure.pure (change console, shelf) := fun _ => rfl
  simp [result, Run.note, Except.mapError, modify, modifyGet, MonadStateOf.modifyGet, hmodify]

theorem map_result {γ : Type} {part : Run m α} {outcome : ExceptT Failure m α}
    (hpart : ComesTo part outcome) (f : Except Stop α → γ) (console : Console) (shelf : Shelf) :
    f <$> part.result console shelf =
      (fun ended => f (ended.mapError .failure)) <$> outcome.run := by
  rw [hpart, Functor.map_map]

/-- Two parts that read one thing first, and then settle on results with one ending whatever they
have read, have one ending. -/
theorem ending_congr {γ : Type} {part : Run m α} {part' : Run m β} {read : ExceptT Failure m γ}
    {value : γ → Except Failure α} {value' : γ → Except Failure β}
    (hpart : ComesTo part (read >>= fun c => ExceptT.mk (Pure.pure (value c))))
    (hpart' : ComesTo part' (read >>= fun c => ExceptT.mk (Pure.pure (value' c))))
    (hending : ∀ c, ending ((value c).mapError .failure) = ending ((value' c).mapError .failure))
    (console console' : Console) (shelf shelf' : Shelf) :
    ending <$> part.result console shelf = ending <$> part'.result console' shelf' := by
  rw [hpart.map_result, hpart'.map_result, ExceptT.run_bind, ExceptT.run_bind, map_bind, map_bind]
  congr 1
  funext found
  cases found with
  | ok c => simp [hending c]
  | error failure => simp [ending, Except.mapError]

end ComesTo

/-! ## Parts that read no files -/

/-- The part reads no files and ends with a result that was settled before. -/
def Settles (part : Run m α) (value : Except Failure α) : Prop :=
  ComesTo part (ExceptT.mk (pure value))

namespace Settles

theorem bind {part : Run m α} {value : Except Failure α} {next : α → Run m β}
    {rest : α → Except Failure β} (hpart : Settles part value)
    (hnext : ∀ a, Settles (next a) (rest a)) : Settles (part >>= next) (value >>= rest) := by
  have h := ComesTo.bind hpart hnext
  cases value with
  | ok a =>
      have hrest : ExceptT.mk (Pure.pure (.ok a) : m _) >>=
          (fun a => ExceptT.mk (Pure.pure (rest a))) = ExceptT.mk (Pure.pure (rest a)) :=
        pure_bind _ _
      rw [hrest] at h
      exact h
  | error failure =>
      have hrest : ExceptT.mk (Pure.pure (.error failure) : m _) >>=
          (fun a => ExceptT.mk (Pure.pure (rest a))) = ExceptT.mk (Pure.pure (.error failure)) :=
        pure_bind _ _
      rw [hrest] at h
      exact h

theorem settle (value : Except Failure α) : Settles (Run.settle value : Run m α) value :=
  ComesTo.settle value

theorem note (line : String) : Settles (Run.note line : Run m Unit) (.ok ()) := ComesTo.note line

/-- A line at the end changes nothing. -/
theorem andNote {part : Run m Unit} {value : Except Failure Unit} (hpart : Settles part value)
    (line : String) : Settles (part >>= fun _ => Run.note line) value := by
  have h := hpart.bind fun _ => note line
  cases value with
  | ok _ => exact h
  | error _ => exact h

theorem forM_note (lines : List α) (text : α → String) :
    Settles (lines.forM fun line => Run.note (text line) : Run m Unit) (.ok ()) := by
  induction lines with
  | nil => exact ComesTo.pure ()
  | cons line rest ih => exact (note (text line)).bind fun _ => ih

theorem elim {test : Option α} {run : α → Run m Unit} {value : α → Except Failure Unit}
    (hrun : ∀ a, Settles (run a) (value a)) :
    Settles (test.elim (Pure.pure ()) run) (test.elim (Pure.pure ()) value) := by
  cases test with
  | none => exact ComesTo.pure ()
  | some a => exact hrun a

theorem foldlM {step : β → α → Run m β} {pureStep : β → α → Except Failure β}
    (hstep : ∀ b a, Settles (step b a) (pureStep b a)) (items : List α) (b : β) :
    Settles (items.foldlM step b) (items.foldlM pureStep b) := by
  induction items generalizing b with
  | nil => exact ComesTo.pure b
  | cons a rest ih =>
      rw [List.foldlM_cons, List.foldlM_cons]
      exact (hstep b a).bind fun next => ih next

end Settles

end Screener.Run
