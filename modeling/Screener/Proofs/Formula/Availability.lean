import Screener.Proofs.Formula.Ensures
import Screener.Proofs.Formula.Substitution

/-!
# What formulas name is there

A text compiles only if every column that it names is in the frame, every indicator is registered
and every variable stands for a definition that has been made.  Definitions are added and never
removed, so what a formula names is there from then on (`Session.Continues`), and the definitions
of a session name only what was there when they were made, and pass the check of their operators
(`Grounded`).  One question keeps both, so a dialogue does.

What one question can do to a session is said once (`Session.Moves`).
-/

namespace Screener

/-- Whether an operand names what is there, `next` definitions having been made. -/
def Operand.Available (registry : Registry) (next : Nat) : Operand → Prop
  | .literal _ => True
  | .column name => name ∈ Frame.columns
  | .call c => registry.contains c.name = true
  | .reference _ number | .lag _ _ number => number < next

theorem Operand.Available.mono {registry : Registry} {next next' : Nat} {o : Operand}
    (havailable : o.Available registry next) (hnext : next ≤ next') :
    o.Available registry next' := by
  cases o with
  | literal value => trivial
  | column name => exact havailable
  | call c => exact havailable
  | reference name number => exact Nat.lt_of_lt_of_le havailable hnext
  | lag name periods number => exact Nat.lt_of_lt_of_le havailable hnext

theorem Operand.Available.lt {registry : Registry} {next number : Nat} {o : Operand}
    (havailable : o.Available registry next) (hnumber : o.definition? = some number) :
    number < next := by
  cases o with
  | reference name other =>
      cases hnumber
      exact havailable
  | lag name periods other =>
      cases hnumber
      exact havailable
  | _ => cases hnumber

/-! ## Compiled texts -/

namespace Scope

variable {scope : Scope} {text : String}

/-- A word is read as a column only if it names one. -/
theorem mem_columns_of_tokenOf {name : String}
    (htoken : scope.tokenOf text = .ok (.operand (.column name))) : name ∈ Frame.columns := by
  rw [tokenOf] at htoken
  split at htoken
  · cases htoken
  split at htoken
  · next hcolumn =>
    cases htoken
    exact hcolumn
  split at htoken
  · cases htoken
  split at htoken
  · -- neither a lag nor a call is a column
    split at htoken
    · obtain ⟨_, _, _, -, -, hlag⟩ := exists_of_lag_eq_ok htoken
      cases hlag
    · obtain ⟨_, -, hcall⟩ := exists_of_call_eq_ok htoken
      cases hcall
  split at htoken
  · cases htoken
  split at htoken
  · cases htoken
  split at htoken <;> cases htoken

theorem available_of_tokenOf (hbounded : scope.bindings.Bounded) {o : Operand}
    (htoken : scope.tokenOf text = .ok (.operand o)) :
    o.Available scope.registry scope.bindings.next := by
  cases denotes_of_tokenOf htoken with
  | literal value => trivial
  | column => exact mem_columns_of_tokenOf htoken
  | call hcontains => exact hcontains
  | lag hparts hfind => exact hbounded _ _ hfind
  | reference hfind => exact hbounded _ _ hfind

end Scope

theorem Formula.available_of_compile {scope : Scope} (hbounded : scope.bindings.Bounded)
    {source : String} {formula : Formula} (hcompile : compile scope source = .ok formula)
    {o : Operand} (hmem : .operand o ∈ formula.nodes) :
    o.Available scope.registry scope.bindings.next := by
  obtain ⟨lexeme, -, htoken⟩ := (arranges_of_compile hcompile).exists_tokenOf hmem
  exact Scope.available_of_tokenOf hbounded htoken

/-! ## Definitions -/

/-- Whether all definitions pass the check of their operators and name only what was there before
them. -/
def Grounded (registry : Registry) : List Formula → Prop
  | [] => True
  | formula :: earlier =>
    (formula.checkArity = .ok () ∧
      ∀ o, .operand o ∈ formula.nodes → o.Available registry earlier.length) ∧
    Grounded registry earlier

namespace Grounded

variable {registry : Registry} {definitions : List Formula}

theorem of_append {later : List Formula} (hgrounded : Grounded registry (later ++ definitions)) :
    Grounded registry definitions := by
  induction later with
  | nil => exact hgrounded
  | cons formula later ih => exact ih hgrounded.2

/-- A definition names only what was there before it, and its number tells how much that was. -/
theorem available_of_getElem? (hgrounded : Grounded registry definitions) {number : Nat}
    {formula : Formula} (hformula : definitions.reverse[number]? = some formula) {o : Operand}
    (hmem : .operand o ∈ formula.nodes) : o.Available registry number := by
  induction definitions with
  | nil => cases hformula
  | cons latest earlier ih =>
      rw [List.reverse_cons, List.getElem?_append, List.length_reverse] at hformula
      split at hformula
      · exact ih hgrounded.2 hformula
      · next hlatest =>
        obtain rfl := List.mem_singleton.mp (List.mem_of_getElem? hformula)
        exact (hgrounded.1.2 o hmem).mono (by omega)

/-- What is reached from nodes is there if what the nodes name is there. -/
theorem available_of_reaches (hgrounded : Grounded registry definitions) {nodes : List Node}
    {next : Nat} (hnodes : ∀ o, .operand o ∈ nodes → o.Available registry next) {o : Operand}
    (hreaches : Reaches definitions nodes o) : o.Available registry next := by
  induction hreaches generalizing next with
  | here hmem => exact hnodes _ hmem
  | through hmem hnumber hformula _ ih =>
      have hearlier := ih fun o hmem => hgrounded.available_of_getElem? hformula hmem
      exact hearlier.mono (Nat.le_of_lt ((hnodes _ hmem).lt hnumber))

theorem checked (hgrounded : Grounded registry definitions) {number : Nat}
    (hnumber : number < definitions.length) : Checked definitions number := by
  induction definitions generalizing number with
  | nil => cases hnumber
  | cons formula earlier ih =>
      rw [Checked]
      split
      · refine ⟨hgrounded.1.1, fun o hmem other hother => ?_⟩
        exact ih hgrounded.2 ((hgrounded.1.2 o hmem).lt hother)
      · next hlatest =>
        rw [List.length_cons] at hnumber
        exact ih hgrounded.2 (by omega)

end Grounded

/-! ## Sessions -/

namespace Session

/-- What a question does to a session, if anything: a definition is made, or a formula is
evaluated. -/
inductive Moves (session : Session) : Session → Prop
  | stays : Moves session session
  | defines {name source : String} {formula : Formula}
      (hcompile : session.compile source = .ok formula) (harity : formula.checkArity = .ok ()) :
      Moves session { session with bindings := session.bindings.define name formula }
  | evaluates {source : String} {formula : Formula}
      (hcompile : session.compile source = .ok formula) :
      Moves session (session.evaluateFormula formula).2

theorem moves_ask (session : Session) (question : Question) :
    Moves session (session.ask question).2 := by
  have hevaluate : ∀ source, Moves session (session.evaluate source).2 := by
    intro source
    rw [evaluate]
    cases hcompile : session.compile source with
    | error e => exact .stays
    | ok formula => exact .evaluates hcompile
  cases question with
  | define name source =>
      rw [ask]
      cases hdefine : session.define name source with
      | error e => exact .stays
      | ok next =>
          obtain ⟨formula, hcompile, harity, rfl⟩ := exists_of_define hdefine
          exact .defines hcompile harity
  | evaluate source => exact hevaluate source
  | condition source => exact hevaluate source

/-- What a session keeps whatever it is asked. -/
structure Continues (session next : Session) : Prop where
  env : next.env = session.env
  formulas : session.bindings.formulas <:+ next.bindings.formulas

theorem Continues.refl (session : Session) : Continues session session := ⟨rfl, List.suffix_rfl⟩

theorem Continues.trans {first second third : Session} (hfirst : Continues first second)
    (hsecond : Continues second third) : Continues first third :=
  ⟨hsecond.env.trans hfirst.env, hfirst.formulas.trans hsecond.formulas⟩

theorem Moves.continues {session next : Session} (hmoves : Moves session next) :
    Continues session next := by
  cases hmoves with
  | stays => exact .refl session
  | defines hcompile harity => exact ⟨rfl, List.suffix_cons _ _⟩
  | evaluates hcompile => exact ⟨rfl, List.suffix_rfl⟩

theorem continues_asked (session : Session) (questions : List Question) :
    Continues session (session.asked questions) := by
  induction questions generalizing session with
  | nil => exact .refl session
  | cons question rest ih => exact (session.moves_ask question).continues.trans (ih _)

/-- Whether the definitions of a session name only what was there before them. -/
def IsGrounded (session : Session) : Prop :=
  Grounded session.env.registry session.bindings.formulas

theorem Moves.isGrounded {session next : Session} (hmoves : Moves session next)
    (hbounded : session.bindings.Bounded) (hgrounded : session.IsGrounded) : next.IsGrounded := by
  cases hmoves with
  | stays => exact hgrounded
  | defines hcompile harity =>
      refine ⟨⟨harity, fun o hmem => ?_⟩, hgrounded⟩
      exact Formula.available_of_compile hbounded hcompile hmem
  | evaluates hcompile => exact hgrounded

theorem Orderly.isGrounded_asked {session : Session} (horderly : session.Orderly)
    (hgrounded : session.IsGrounded) (questions : List Question) :
    (session.asked questions).IsGrounded := by
  induction questions generalizing session with
  | nil => exact hgrounded
  | cons question rest ih =>
      exact ih (horderly.ask question)
        ((session.moves_ask question).isGrounded horderly.bounded hgrounded)

theorem isGrounded_start_asked (frame : Frame) (registry : Registry) (questions : List Question) :
    ((start frame registry).asked questions).IsGrounded :=
  (orderly_start frame registry).isGrounded_asked trivial questions

/-- What a compiled formula names is there at once and whatever is asked afterwards. -/
theorem Continues.available {session next : Session} (hcontinues : Continues session next)
    (hbounded : session.bindings.Bounded) {source : String} {formula : Formula}
    (hcompile : session.compile source = .ok formula) {o : Operand}
    (hmem : .operand o ∈ formula.nodes) :
    o.Available next.env.registry next.bindings.formulas.length := by
  have havailable := Formula.available_of_compile hbounded hcompile hmem
  rw [hcontinues.env]
  exact havailable.mono hcontinues.formulas.length_le

end Session

end Screener
