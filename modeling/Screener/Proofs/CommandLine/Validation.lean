import Screener.File.Tree
import Screener.Proofs.CommandLine.Outcome
import Screener.Proofs.Formula.Acceptance
import Screener.Proofs.Scan.Validation

/-!
# Checking a strategy and running it

The command that checks a strategy shows its formulas one by one, compiling and defining them as it
goes, and then tries them all without data.  A scan only tries them.  The command accepts exactly
the strategies that a scan accepts, and it refuses the others with the same exit status
(`Run.ending_validate_eq`).

## Strategy

Apart from the lines that are written, showing the formulas of rules comes to compiling them
(`Run.showRules_settles`).  A formula that does not compile does not pass the trial either
(`Rules.compiles_of_validateExpressions`), so showing the formulas refuses nothing that a scan would
run.  It may refuse a strategy for another formula than a scan does, but all that can be wrong with
a formula has the same exit status (`Formulaic`).
-/

namespace Screener

/-! ## What is wrong with a formula -/

/-- A failure can only be that of a formula. -/
def Formulaic {α : Type} (outcome : Except Failure α) : Prop :=
  ∀ failure, outcome = .error failure → ∃ label cause, failure = .expression label cause

namespace Formulaic

variable {α β : Type}

theorem pure (value : α) : Formulaic (pure value) := nofun

theorem mapError (outcome : Except ExpressionError α) (label : String) :
    Formulaic (outcome.mapError (.expression label)) := by
  intro failure hfailure
  cases outcome with
  | error cause =>
      cases hfailure
      exact ⟨label, cause, rfl⟩
  | ok value => cases hfailure

theorem bind {outcome : Except Failure α} {next : α → Except Failure β}
    (houtcome : Formulaic outcome) (hnext : ∀ a, Formulaic (next a)) :
    Formulaic (outcome >>= next) := by
  intro failure hfailure
  cases outcome with
  | error first =>
      cases hfailure
      exact houtcome failure rfl
  | ok a => exact hnext a failure hfailure

theorem foldlM {step : β → α → Except Failure β} (hstep : ∀ b a, Formulaic (step b a))
    (items : List α) (b : β) : Formulaic (items.foldlM step b) := by
  induction items generalizing b with
  | nil => exact .pure b
  | cons a rest ih =>
      rw [List.foldlM_cons]
      exact (hstep b a).bind ih

theorem elim {test : Option α} {run : α → Except Failure Unit} (hrun : ∀ a, Formulaic (run a)) :
    Formulaic (test.elim (Pure.pure ()) run) := by
  cases test with
  | none => exact .pure ()
  | some a => exact hrun a

end Formulaic

theorem formulaic_declare (session : Session) (declaration : Declaration) :
    Formulaic (session.declare declaration) :=
  .mapError _ _

theorem formulaic_evaluateCondition (session : Session) (label source : String) :
    Formulaic ((session.evaluateCondition source).1.mapError (.expression label)) :=
  .mapError _ _

theorem formulaic_screenSnapshot (snapshot : Frame) (condition : String) :
    Formulaic (screenSnapshot snapshot condition) :=
  (formulaic_evaluateCondition _ _ condition).bind fun _ => .pure _

theorem formulaic_matchesLatestBar (frame : Frame) (registry : Registry) (rule : HistoryRule) :
    Formulaic (matchesLatestBar frame registry rule) :=
  (Formulaic.foldlM formulaic_declare rule.declarations _).bind fun session =>
    (formulaic_evaluateCondition session _ rule.condition).bind fun _ => .pure _

theorem Formulaic.discard {α : Type} {outcome : Except Failure α} (houtcome : Formulaic outcome) :
    Formulaic (Functor.discard outcome) := by
  cases outcome with
  | error first =>
      rintro _ ⟨⟩
      exact houtcome first rfl
  | ok a => exact .pure ()

theorem formulaic_validateExpressions (rules : Rules) (registry : Registry) :
    Formulaic (validateExpressions rules registry) := by
  rw [validateExpressions_eq]
  refine .bind (.elim fun condition => ?_) fun _ => .elim fun rule => ?_
  · exact (formulaic_screenSnapshot _ condition).discard
  · exact (formulaic_matchesLatestBar _ _ rule).discard

/-! ## Compiling all formulas of rules -/

/-- A formula that is only compiled. -/
def compiled (label : String) (formula : Except CompileError Formula) : Except Failure Unit :=
  discard <| formula.mapError fun e => .expression label (.compile e)

/-- Makes the declarations of a rule and compiles its condition. -/
def HistoryRule.compile (rule : HistoryRule) : Except Failure Unit := do
  let session ← rule.declarations.foldlM Session.declare (Session.start .empty .standard)
  compiled "2nd_scan.condition" (session.compile rule.condition)

/-- Compiles all formulas of rules. -/
def Rules.compile (rules : Rules) : Except Failure Unit := do
  rules.latest.elim (pure ()) fun condition =>
    compiled "1st_scan.condition" ((Session.start .empty .empty).compile condition)
  rules.history.elim (pure ()) HistoryRule.compile

theorem formulaic_compiled (label : String) (formula : Except CompileError Formula) :
    Formulaic (compiled label formula) := by
  cases formula with
  | error e =>
      rintro _ ⟨⟩
      exact ⟨label, .compile e, rfl⟩
  | ok formula => exact .pure ()

theorem formulaic_compile (rules : Rules) : Formulaic rules.compile :=
  .bind (.elim fun _ => formulaic_compiled _ _) fun _ => .elim fun rule =>
    (Formulaic.foldlM formulaic_declare rule.declarations _).bind fun _ => formulaic_compiled _ _

theorem compiled_of_evaluateCondition {session : Session} {source : String} {mask : Series}
    (hmask : (session.evaluateCondition source).1 = .ok mask) (label : String) :
    compiled label (session.compile source) = .ok () := by
  obtain ⟨series, hseries, -⟩ := bind_eq_ok hmask
  obtain ⟨formula, hformula, -⟩ := Session.accepts_of_evaluate hseries
  rw [compiled, hformula]
  rfl

/-- A declaration compiles its formula itself, and fails alike if it does not compile. -/
theorem compiled_bind_declare (session : Session) (declaration : Declaration) :
    (compiled ("variable " ++ declaration.name) (session.compile declaration.expression) >>=
      fun _ => session.declare declaration) = session.declare declaration := by
  rw [Session.declare, Session.define]
  cases session.compile declaration.expression <;> rfl

/-- What passes the trial of all formulas compiles. -/
theorem Rules.compiles_of_validateExpressions {rules : Rules}
    (hvalidate : validateExpressions rules .standard = .ok ()) : rules.compile = .ok () := by
  rw [validateExpressions_eq_ok_iff] at hvalidate
  obtain ⟨hlatest, hhistory⟩ := hvalidate
  obtain ⟨latest, history⟩ := rules
  have hfirst : (latest.elim (pure ()) fun condition =>
      compiled "1st_scan.condition" ((Session.start .empty .empty).compile condition)) =
      .ok () := by
    cases latest with
    | none => rfl
    | some condition =>
        obtain ⟨tickers, htickers⟩ := hlatest condition rfl
        obtain ⟨mask, hmask, -⟩ := bind_eq_ok htickers
        -- compiling does not look at the frame
        exact compiled_of_evaluateCondition (mapError_eq_ok hmask) _
  have hsecond : history.elim (pure ()) HistoryRule.compile = .ok () := by
    cases history with
    | none => rfl
    | some rule =>
        obtain ⟨answer, hanswer⟩ := hhistory rule rfl
        obtain ⟨session, hsession, hrest⟩ := bind_eq_ok hanswer
        obtain ⟨mask, hmask, -⟩ := bind_eq_ok hrest
        show rule.compile = .ok ()
        rw [HistoryRule.compile, hsession]
        exact compiled_of_evaluateCondition (mapError_eq_ok hmask) _
  rw [Rules.compile, hfirst]
  exact hsecond

/-! ## Showing formulas comes to compiling them -/

namespace Run

variable {m : Type → Type} [Monad m] [LawfulMonad m]

theorem showCompiled_settles (label source : String) (formula : Except CompileError Formula) :
    Settles (showCompiled label source formula : Run m Unit) (compiled label formula) := by
  unfold showCompiled
  cases formula with
  | ok formula =>
      exact (Settles.note _).bind fun _ => (Settles.note _).bind fun _ => .note _
  | error e =>
      exact (Settles.note _).bind fun _ => (Settles.forM_note _ _).bind fun _ => .settle _

theorem showDeclaration_settles (session : Session) (declaration : Declaration) :
    Settles (showDeclaration session declaration : Run m Session)
      (session.declare declaration) := by
  rw [← compiled_bind_declare]
  exact (showCompiled_settles _ _ _).bind fun _ => .settle _

/-- Shows the formulas of a rule. -/
def showRule (rule : HistoryRule) : Run m Unit := do
  let session ← rule.declarations.foldlM showDeclaration (Session.start .empty .standard)
  showCompiled "2nd_scan.condition" rule.condition (session.compile rule.condition)
  note ("  Timeframe: " ++ rule.timeframe.name)

theorem showRules_eq (rules : Rules) :
    (showRules rules : Run m Unit) =
      (rules.latest.elim (pure ()) fun condition =>
        showCompiled "1st_scan.condition" condition
          ((Session.start .empty .empty).compile condition)) >>= fun _ =>
      rules.history.elim (pure ()) showRule := by
  rw [showRules]
  cases rules.latest with
  | none => cases rules.history <;> simp [showRule]
  | some condition => cases rules.history <;> simp [showRule]

theorem showRule_settles (rule : HistoryRule) :
    Settles (showRule rule : Run m Unit) rule.compile := by
  have hdeclarations := Settles.foldlM (m := m) showDeclaration_settles rule.declarations
    (Session.start .empty .standard)
  exact hdeclarations.bind fun session => (showCompiled_settles _ _ _).andNote _

theorem showRules_settles (rules : Rules) :
    Settles (showRules rules : Run m Unit) rules.compile := by
  rw [showRules_eq]
  exact .bind (.elim fun _ => showCompiled_settles _ _ _) fun _ => .elim showRule_settles

/-! ## The command and the start of a scan -/

/-- What a scan makes of a strategy file. -/
def scanned (file : KeyFile) : Except Failure Strategy := do
  StrategyFile.validate file
  let strategy ← StrategyFile.build file
  validateExpressions strategy.rules .standard
  return strategy

/-- What the command that checks a strategy makes of its file. -/
def checked (file : KeyFile) : Except Failure Unit := do
  StrategyFile.validate file
  let strategy ← StrategyFile.build file
  strategy.rules.compile
  validateExpressions strategy.rules .standard

/-- Going through formulas before their trial changes nothing about the ending, if what passes the
trial is not refused before. -/
theorem ending_bind_trial {first trial : Except Failure Unit} (hfirst : Formulaic first)
    (htrial : Formulaic trial) (hpasses : trial = .ok () → first = .ok ()) (strategy : Strategy) :
    ending ((first >>= fun _ => trial).mapError .failure) =
      ending ((trial >>= fun _ => pure strategy).mapError .failure) := by
  cases trial with
  | ok _ =>
      rw [hpasses rfl]
      rfl
  | error failure =>
      obtain ⟨label, cause, rfl⟩ := htrial failure rfl
      cases first with
      | ok _ => rfl
      | error earlier =>
          -- another formula may be refused before, but with the status of all formulas
          obtain ⟨label', cause', rfl⟩ := hfirst earlier rfl
          rfl

theorem ending_checked_eq (file : KeyFile) :
    ending ((checked file).mapError .failure) = ending ((scanned file).mapError .failure) := by
  unfold checked scanned
  cases StrategyFile.validate file with
  | error failure => rfl
  | ok _ =>
      cases StrategyFile.build file with
      | error failure => rfl
      | ok strategy =>
          exact ending_bind_trial (formulaic_compile _) (formulaic_validateExpressions _ _)
            Rules.compiles_of_validateExpressions strategy

variable [Files m]

theorem strategy_comesTo (path : String) :
    ComesTo (strategy path : Run m Strategy)
      (ExceptT.mk (KeyFile.load path) >>= fun file => ExceptT.mk (pure (scanned file))) := by
  refine (ComesTo.settleWith _).bind fun file => ?_
  refine (Settles.settle (StrategyFile.validate file)).bind fun _ => ?_
  refine (Settles.settle (StrategyFile.build file)).bind fun strategy => ?_
  refine (Settles.settle (validateExpressions strategy.rules .standard)).bind fun _ => ?_
  exact ComesTo.pure strategy

theorem validate_comesTo (path : String) :
    ComesTo (validate path none : Run m Unit)
      (ExceptT.mk (KeyFile.load path) >>= fun file => ExceptT.mk (pure (checked file))) := by
  have hfile : ∀ file, Settles (do
      settle (StrategyFile.validate file)
      let strategy ← settle (StrategyFile.build file)
      showRules strategy.rules
      settle (validateExpressions strategy.rules .standard)
      note "\nStrategy configuration is valid." : Run m Unit) (checked file) := by
    intro file
    refine (Settles.settle (StrategyFile.validate file)).bind fun _ => ?_
    refine (Settles.settle (StrategyFile.build file)).bind fun strategy => ?_
    refine (showRules_settles strategy.rules).bind fun _ => ?_
    exact (Settles.settle _).andNote _
  have hnote := ComesTo.note (m := m) ("Validating strategy: " ++ path)
  have hstrategy := hnote.bind fun _ => (ComesTo.settleWith (KeyFile.load path)).bind hfile
  rw [pure_bind] at hstrategy
  exact hstrategy

/-- **The command that checks a strategy accepts exactly what a scan accepts.**  Whatever the file
holds, the command ends well if and only if the strategy of the file can be scanned with, and
otherwise both end with one exit status. -/
theorem ending_validate_eq (path : String) (console console' : Console) (shelf shelf' : Shelf) :
    ending <$> (validate path none : Run m Unit).result console shelf =
      ending <$> (strategy path : Run m Strategy).result console' shelf' :=
  (validate_comesTo path).ending_congr (strategy_comesTo path) ending_checked_eq
    console console' shelf shelf'

/-- A tree with a strategy file.  Its first formula is no condition, which stops a scan, and its
second one has an open parenthesis, which stops the command before it tries any. -/
def faultyTree : FileTree where
  items := [(["faulty.ini"], .file
    ("[strategy]\nid=7\n[1st_scan]\ncondition=close\n[2nd_scan]\ncondition=(close").toUTF8)]

theorem ending_validate_eq_faultyTree :
    ((ending <$> (validate "faulty.ini" none : Run (StateM FileTree) Unit).result {} .empty).run
      faultyTree).1 = .failure 4 := by
  rw [ending_validate_eq "faulty.ini" {} {} .empty .empty]
  decide +kernel

end Run

end Screener
