import Screener.Proofs.Formula.Readings
import Screener.Proofs.Formula.Registries
import Screener.Proofs.Formula.Substitution

/-!
# What can be done with the name of a definition

A definition is made for any name.  `Session.Binds` says what that is worth: a name that is read as
a variable evaluates to what its text evaluated to, any other word goes on to be what it was, and
lags of the name are shifts of the series unless the name has a point.  Every definition that is
made does this (`Session.Orderly.binds`).

## Strategy

A text that is one word compiles to one node, so it evaluates to the series of what the word stands
for (`Session.evaluate_word`).  For the new definition that is the meaning of its formula among the
earlier definitions, shifted in a lag (`Environment.series_lag`); a word that is read as before
stands for something earlier, which a definition does not touch (`Environment.meaning_cons`).
-/

namespace Screener

open Scope (IsName IsWord lagOf)

/-! ## Texts of one word -/

theorem Lexeme.ofText_word {word : String} (hword : IsWord word) : ofText word = [⟨word, 0⟩] := by
  have hend : ∀ c ∈ ([] : List Char).head?, Text.isBlank c = true := by simp
  have hscan := scan_word hword.nonempty hword.solid hend 0
  rw [List.append_nil, scan_nil, String.ofList_toList] at hscan
  exact hscan

namespace Formula

variable {scope : Scope} {word : String}

theorem compile_of_tokenOf (hword : IsWord word) {o : Operand}
    (htoken : scope.tokenOf word = .ok (.operand o)) :
    compile scope word = .ok ⟨word, [.operand o]⟩ := by
  have hplaced : scope.tokenOf (Lexeme.ofWord word).text = .ok (.operand o) := htoken
  rw [compile, Lexeme.ofText_word hword]
  show (arrange scope [.ofWord word] []).map _ = _
  rw [arrange_operand hplaced]
  rfl

theorem compile_of_tokenOf_eq_error (hword : IsWord word) {fault : CompileFault}
    (htoken : scope.tokenOf word = .error fault) : compile scope word = .error ⟨fault, 0⟩ := by
  rw [compile, Lexeme.ofText_word hword]
  simp only [arrange, Scope.classify, htoken]
  rfl

end Formula

/-! ## A definition among the definitions -/

namespace Environment

/-- A lag of the latest definition shifts what its formula means among the earlier ones. -/
theorem series_lag (env : Environment) (formula : Formula) (earlier : List Formula)
    (name : String) (periods : Int) :
    Operand.series env env.compute (env.definition (formula :: earlier))
        (.lag name periods earlier.length) =
      (env.meaning earlier formula).map (·.shift periods) := by
  rw [Operand.series, Operand.content, env.definition_length]
  cases hmeaning : env.meaning earlier formula with
  | error e => rfl
  | ok series =>
      have hshift : (series.shift periods).length = env.frame.size := by
        rw [Series.length_shift, env.length_of_meaning_eq_ok hmeaning]
      show settle (env.checkLength (series.shift periods)) = _
      rw [settle_eq, checkLength, if_pos hshift]
      rfl

/-- A definition changes nothing about formulas that refer to earlier definitions only. -/
theorem meaning_cons (env : Environment) (formula : Formula) {earlier : List Formula}
    {other : Formula} (hearlier : ∀ o, .operand o ∈ other.nodes →
      ∀ number, o.definition? = some number → number < earlier.length) :
    env.meaning (formula :: earlier) other = env.meaning earlier other := by
  apply reduce_congr
  intro o hmem
  apply Operand.series_congr
  intro number hnumber
  exact env.definition_cons_of_lt formula (hearlier o hmem number hnumber)

end Environment

namespace Session

variable {session : Session}

theorem evaluate_of_compile (hsound : session.Sound) {source : String} {formula : Formula}
    (hcompile : session.compile source = .ok formula) :
    (session.evaluate source).1 =
      (session.env.meaning session.bindings.formulas formula).mapError .evaluation := by
  rw [(evaluate_of_sound hsound source).1, meaning_of_compile hcompile]

/-- A word evaluates to the series of what it stands for. -/
theorem evaluate_word (hsound : session.Sound) {word : String} (hword : IsWord word) {o : Operand}
    (htoken : session.scope.tokenOf word = .ok (.operand o)) :
    (session.evaluate word).1 = (o.series session.env session.env.compute
      (session.env.definition session.bindings.formulas)).mapError .evaluation := by
  have hcompile : session.compile word = .ok ⟨word, [.operand o]⟩ :=
    Formula.compile_of_tokenOf hword htoken
  rw [evaluate_of_compile hsound hcompile]
  congr 1
  exact bind_pure _

theorem evaluate_word_eq_error (hsound : session.Sound) {word : String} (hword : IsWord word)
    {fault : CompileFault} (htoken : session.scope.tokenOf word = .error fault) :
    (session.evaluate word).1 = .error (.compile ⟨fault, 0⟩) := by
  have hcompile : session.compile word = .error ⟨fault, 0⟩ :=
    Formula.compile_of_tokenOf_eq_error hword htoken
  rw [(evaluate_of_sound hsound word).1, meaning, hcompile]
  rfl

/-! ## After a definition -/

/-- A text whose words are all read as before evaluates as before. -/
theorem Orderly.evaluate_define_of_tokenOf (horderly : session.Orderly) (name : String)
    (formula : Formula) {text : String} (htokens : ∀ lexeme ∈ Lexeme.ofText text,
      (session.scope.define name formula).tokenOf lexeme.text =
        session.scope.tokenOf lexeme.text) :
    (evaluate { session with bindings := session.bindings.define name formula } text).1 =
      (session.evaluate text).1 := by
  have hsound := horderly.sound.define name formula
  have hcompile : compile { session with bindings := session.bindings.define name formula } text =
      session.compile text := Formula.compile_congr htokens
  rw [(evaluate_of_sound hsound text).1, (evaluate_of_sound horderly.sound text).1, meaning,
    meaning, hcompile]
  cases hother : session.compile text with
  | error e => rfl
  | ok other =>
      refine congrArg (Except.mapError ExpressionError.evaluation) ?_
      apply session.env.meaning_cons
      intro o hmem number hnumber
      obtain ⟨lexeme, -, htoken⟩ := (Formula.arranges_of_compile hother).exists_tokenOf hmem
      exact Scope.lt_next_of_denotes horderly.bounded (Scope.denotes_of_tokenOf htoken) hnumber

/-- What making a definition for a name is worth. -/
structure Binds (session : Session) (name source : String) (next : Session) : Prop where
  /-- A name that is read as a variable stands for its text. -/
  named : IsName name → (next.evaluate name).1 = (session.evaluate source).1
  /-- Another word is what it was. -/
  word : IsWord name → ¬IsName name → (next.evaluate name).1 = (session.evaluate name).1
  lag : IsWord name → '.' ∉ name.toList → ∀ periods : Int,
    Decimal.lowest64 ≤ periods → periods ≤ Decimal.highest64 →
      (next.evaluate (lagOf name periods)).1 = (session.evaluate source).1.map (·.shift periods)
  pointed : IsWord name → '.' ∈ name.toList → ∀ periods : Int,
    (next.evaluate (lagOf name periods)).1 =
      .error (.compile ⟨.invalidShift (lagOf name periods), 0⟩)
  /-- These are the two ways to refer to the definition. -/
  refers : next.scope.Refers session.bindings.next ↔
    IsName name ∨ ((∀ c ∈ name.toList, Text.isBlank c = false) ∧ '.' ∉ name.toList)

/-- Every definition that is made binds its name. -/
theorem Orderly.binds (horderly : session.Orderly) {name source : String} {next : Session}
    (hdefine : session.define name source = .ok next) : Binds session name source next := by
  have hsound := (horderly.define hdefine).sound
  obtain ⟨formula, hcompile, -, rfl⟩ := exists_of_define hdefine
  have hsource := evaluate_of_compile horderly.sound hcompile
  constructor
  · intro hname
    have htoken := session.scope.tokenOf_define_self hname formula
    rw [evaluate_word hsound hname.isWord htoken, hsource]
    congr 1
    exact session.env.series_reference formula session.bindings.formulas name
  · intro hword hname
    apply horderly.evaluate_define_of_tokenOf
    intro lexeme hmem
    rw [Lexeme.ofText_word hword, List.mem_singleton] at hmem
    rw [hmem]
    exact session.scope.tokenOf_define_of_not_isName hword hname formula
  · intro hword hpoint periods hlow hhigh
    have htoken := session.scope.tokenOf_define_lagOf hpoint formula hlow hhigh
    rw [evaluate_word hsound (Scope.isWord_lagOf hword.solid periods) htoken, hsource,
      ← mapError_map]
    congr 1
    exact session.env.series_lag formula session.bindings.formulas name periods
  · intro hword hpoint periods
    exact evaluate_word_eq_error hsound (Scope.isWord_lagOf hword.solid periods)
      (Scope.tokenOf_lagOf_of_mem _ hpoint periods)
  · exact session.scope.refers_define_iff horderly.bounded name formula

end Session

end Screener
