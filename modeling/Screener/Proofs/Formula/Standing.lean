import Mathlib.Data.Finset.Basic
import Screener.Proofs.Formula.Names

/-!
# What names stand for

Definitions have numbers, and two sessions may number the same definitions differently.  What
matters for a text is what the names in it stand for: if two sessions on the same rows give the same
series to every name that a text mentions, then the text compiles to the same nodes but for the
numbers, or fails alike, and its value is the same (`Session.SameBut.evaluateCondition`).  A
definition that is made in both keeps this, and its name then stands for the same in both
(`Session.SameBut.define`).

## Strategy

`Token.Rel` and `Node.Rel` relate what differs in its operands only.  Arranging lexemes keeps such a
relation whatever it says of the operands (`Formula.arrange_rel`), and reducing the nodes gives
equal results if related operands have equal series (`reduce_eq_of_rel`).
-/

namespace Screener

open Scope (IsLagOf)

/-! ## What differs in its operands only -/

/-- Equal tokens, or operands in a relation. -/
inductive Token.Rel (R : Operand → Operand → Prop) : Token → Token → Prop
  | operand {o o' : Operand} (ho : R o o') : Token.Rel R (.operand o) (.operand o')
  | operator (op : Operator) : Token.Rel R (.operator op) (.operator op)
  | opening : Token.Rel R .opening .opening
  | closing : Token.Rel R .closing .closing

/-- The same operator, or operands in a relation. -/
inductive Node.Rel (R : Operand → Operand → Prop) : Node → Node → Prop
  | operand {o o' : Operand} (ho : R o o') : Node.Rel R (.operand o) (.operand o')
  | operator (op : Operator) : Node.Rel R (.operator op) (.operator op)

variable {R : Operand → Operand → Prop}

theorem Node.rel_operators (ops : List Operator) :
    List.Forall₂ (Node.Rel R) (ops.map .operator) (ops.map .operator) := by
  rw [List.forall₂_map_left_iff, List.forall₂_map_right_iff, List.forall₂_same]
  exact fun op _ => .operator op

namespace Formula

variable {scope scope' : Scope}

/-- Lexemes whose tokens are related are arranged to related nodes, or fail alike. -/
theorem arrange_rel {lexemes : List Lexeme}
    (htokens : ∀ lexeme ∈ lexemes,
      Agree (Token.Rel R) (scope.tokenOf lexeme.text) (scope'.tokenOf lexeme.text))
    (stack : List Pending) :
    Agree (List.Forall₂ (Node.Rel R)) (arrange scope lexemes stack)
      (arrange scope' lexemes stack) := by
  induction lexemes generalizing stack with
  | nil =>
      rw [arrange, arrange]
      cases hpop : Pending.popAll stack with
      | error e => exact .error e
      | ok nodes =>
          obtain ⟨ops, -, rfl⟩ := Pending.popAll_eq_ok hpop
          exact .ok (Node.rel_operators ops)
  | cons lexeme rest ih =>
      obtain ⟨hfirst, hrest⟩ := List.forall_mem_cons.mp htokens
      have hclassify : Agree (Token.Rel R) (scope.classify lexeme) (scope'.classify lexeme) :=
        hfirst.mapError _
      have hlater := ih hrest
      rw [arrange, arrange]
      generalize scope.classify lexeme = token at hclassify ⊢
      generalize scope'.classify lexeme = token' at hclassify ⊢
      cases hclassify with
      | error e => exact .error e
      | ok htoken =>
          cases htoken with
          | operand ho => exact (hlater stack).map fun _ _ hnodes => .cons (.operand ho) hnodes
          | operator op =>
              exact (hlater _).map fun _ _ hnodes => List.rel_append (Node.rel_operators _) hnodes
          | opening => exact hlater _
          | closing =>
              cases Pending.popParen? stack with
              | none => exact .error _
              | some popped =>
                  exact (hlater popped.2).map fun _ _ hnodes =>
                    List.rel_append (Node.rel_operators _) hnodes

theorem compile_rel (source : String)
    (htokens : ∀ word ∈ Lexeme.words source,
      Agree (Token.Rel R) (scope.tokenOf word) (scope'.tokenOf word)) :
    Agree (fun formula formula' => List.Forall₂ (Node.Rel R) formula.nodes formula'.nodes)
      (compile scope source) (compile scope' source) := by
  have hlexemes := List.forall_mem_map.mp htokens
  rw [compile, compile]
  cases hscan : Lexeme.ofText source with
  | nil => exact .error _
  | cons lexeme rest =>
      rw [hscan] at hlexemes
      exact (arrange_rel hlexemes []).map fun _ _ hnodes => hnodes

/-- Related nodes leave equally many values. -/
theorem arityFrom_eq_of_rel {nodes nodes' : List Node}
    (hnodes : List.Forall₂ (Node.Rel R) nodes nodes') (depth : Nat) :
    arityFrom depth nodes' = arityFrom depth nodes := by
  induction hnodes generalizing depth with
  | nil => rfl
  | cons hnode _ ih =>
      cases hnode with
      | operand _ => exact ih _
      | operator op => rw [arityFrom, arityFrom, ih]

end Formula

/-- Related nodes reduce to the same series if related operands have the same series. -/
theorem reduce_eq_of_rel {m : Type → Type} [Monad m] [MonadExceptOf EvaluationError m]
    {operand operand' : Operand → m Series} (hoperand : ∀ o o', R o o' → operand' o' = operand o)
    {nodes nodes' : List Node} (hnodes : List.Forall₂ (Node.Rel R) nodes nodes')
    (stack : List Series) : reduce operand' nodes' stack = reduce operand nodes stack := by
  induction hnodes generalizing stack with
  | nil =>
      match stack with
      | [] => rfl
      | [_] => rfl
      | _ :: _ :: _ => rfl
  | cons hnode _ ih =>
      cases hnode with
      | operand ho =>
          rw [reduce, reduce, hoperand _ _ ho, funext fun series => ih (series :: stack)]
      | operator op =>
          match stack with
          | [] => rfl
          | [_] => rfl
          | right :: left :: below =>
              rw [reduce, reduce, funext fun series => ih (series :: below)]

/-! ## Words that mention a name -/

instance (name text : String) : Decidable (IsLagOf name text) :=
  decidable_of_iff ((Scope.lagParts? text.toList).map Prod.fst = some name) <| by
    simp only [IsLagOf, Option.map_eq_some_iff, Prod.exists]
    constructor
    · rintro ⟨_, periods, hparts, rfl⟩
      exact ⟨periods, hparts⟩
    · rintro ⟨periods, hparts⟩
      exact ⟨name, periods, hparts, rfl⟩

/-- Whether a word of a text is a name or a lag of it. -/
def Mentions (source name : String) : Prop :=
  ∃ word ∈ Lexeme.words source, word = name ∨ IsLagOf name word

instance (source name : String) : Decidable (Mentions source name) :=
  inferInstanceAs (Decidable (∃ word ∈ Lexeme.words source, word = name ∨ IsLagOf name word))

namespace Session

/-! ## Sessions that differ in some names only -/

/-- The series of an operand. -/
def worth (session : Session) (o : Operand) : Except EvaluationError Series :=
  o.series session.env session.env.compute (session.env.definition session.bindings.formulas)

/-- Whether an operand has the same series in one session as another one in another session. -/
def SameWorth (session session' : Session) (o o' : Operand) : Prop :=
  session'.worth o' = session.worth o

/-- The series of what a name stands for. -/
def standing (session : Session) (name : String) : Option (Except EvaluationError Series) :=
  (session.bindings.find? name).map (session.env.definition session.bindings.formulas)

/-- Sessions on the same rows in which all names stand for the same, some names apart. -/
structure SameBut (hidden : Finset String) (session session' : Session) : Prop where
  env : session'.env = session.env
  standing {name : String} : name ∉ hidden → session'.standing name = session.standing name
  orderly : session.Orderly
  orderly' : session'.Orderly

namespace SameBut

variable {hidden : Finset String} {session session' : Session}

theorem symm (hsame : SameBut hidden session session') : SameBut hidden session' session where
  env := hsame.env.symm
  standing := fun hname => (hsame.standing hname).symm
  orderly := hsame.orderly'
  orderly' := hsame.orderly

theorem trans {session'' : Session} (hfirst : SameBut hidden session session')
    (hsecond : SameBut hidden session' session'') : SameBut hidden session session'' where
  env := hsecond.env.trans hfirst.env
  standing := fun hname => (hsecond.standing hname).trans (hfirst.standing hname)
  orderly := hfirst.orderly
  orderly' := hsecond.orderly'

/-- Sessions that differ in some names at most, and in others at most, differ in the common ones. -/
theorem inter {others : Finset String} (hfirst : SameBut hidden session session')
    (hsecond : SameBut others session session') : SameBut (hidden ∩ others) session session' where
  env := hfirst.env
  standing := by
    intro name hname
    rw [Finset.mem_inter, not_and_or] at hname
    exact hname.elim hfirst.standing hsecond.standing
  orderly := hfirst.orderly
  orderly' := hfirst.orderly'

/-! ## Reading words -/

theorem worth_eq (hsame : SameBut hidden session session') {o : Operand}
    (ho : o.definition? = none) : SameWorth session session' o o := by
  rw [SameWorth, worth, worth, hsame.env]
  apply Operand.series_congr
  intro number hnumber
  rw [ho] at hnumber
  cases hnumber

theorem worth_reference (hsame : SameBut hidden session session') {number number' : Nat}
    (hseries : session'.env.definition session'.bindings.formulas number' =
      session.env.definition session.bindings.formulas number) (name : String) :
    SameWorth session session' (.reference name number) (.reference name number') := by
  rw [SameWorth, worth, worth, Operand.series, Operand.series, Operand.content, Operand.content,
    hseries, hsame.env]

theorem worth_lag (hsame : SameBut hidden session session') {number number' : Nat}
    (hseries : session'.env.definition session'.bindings.formulas number' =
      session.env.definition session.bindings.formulas number) (name : String) (periods : Int) :
    SameWorth session session' (.lag name periods number) (.lag name periods number') := by
  rw [SameWorth, worth, worth, Operand.series, Operand.series, Operand.content, Operand.content,
    hseries, hsame.env]

/-- A name that is not hidden stands for nothing in both sessions, or for definitions of the same
series. -/
theorem find? (hsame : SameBut hidden session session') {name : String} (hname : name ∉ hidden) :
    (session.bindings.find? name = none ∧ session'.bindings.find? name = none) ∨
      ∃ number number', session.bindings.find? name = some number ∧
        session'.bindings.find? name = some number' ∧
        session'.env.definition session'.bindings.formulas number' =
          session.env.definition session.bindings.formulas number := by
  have hstanding := hsame.standing hname
  rw [Session.standing, Session.standing] at hstanding
  cases hfind : session.bindings.find? name with
  | none =>
      rw [hfind, Option.map_none, Option.map_eq_none_iff] at hstanding
      exact .inl ⟨rfl, hstanding⟩
  | some number =>
      rw [hfind, Option.map_some, Option.map_eq_some_iff] at hstanding
      obtain ⟨number', hfind', hdefinition⟩ := hstanding
      exact .inr ⟨number, number', rfl, hfind', hdefinition⟩

theorem call_rel (hsame : SameBut hidden session session') (word : String) :
    Agree (Token.Rel (SameWorth session session')) (session.scope.call word)
      (session'.scope.call word) := by
  have hcall : session'.scope.call word = session.scope.call word := by
    apply Scope.call_congr
    intro name
    rw [scope, scope, hsame.env]
  rw [hcall]
  cases htoken : session.scope.call word with
  | error fault => exact .error fault
  | ok token =>
      obtain ⟨c, -, rfl⟩ := Scope.exists_of_call_eq_ok htoken
      exact .ok (.operand (hsame.worth_eq rfl))

theorem lag_rel (hsame : SameBut hidden session session') {word : String}
    (hword : ∀ name ∈ hidden, ¬IsLagOf name word) :
    Agree (Token.Rel (SameWorth session session')) (session.scope.lag word)
      (session'.scope.lag word) := by
  rw [Scope.lag, Scope.lag]
  cases hparts : Scope.lagParts? word.toList with
  | none => exact .error _
  | some parts =>
      obtain ⟨name, periods⟩ := parts
      have hname : name ∉ hidden := fun hmem => hword name hmem ⟨periods, hparts⟩
      rcases hsame.find? hname with ⟨hnone, hnone'⟩ | ⟨number, number', hfind, hfind', hseries⟩
      · simp only [scope, hnone, hnone']
        exact .error _
      · simp only [scope, hfind, hfind']
        exact .ok (.operand (hsame.worth_lag hseries name periods))

/-- A word that mentions no hidden name is read in the same way, but for the number of a
definition. -/
theorem tokenOf_rel (hsame : SameBut hidden session session') {word : String}
    (hword : ∀ name ∈ hidden, word ≠ name ∧ ¬IsLagOf name word) :
    Agree (Token.Rel (SameWorth session session')) (session.scope.tokenOf word)
      (session'.scope.tokenOf word) := by
  rw [Scope.tokenOf_eq_read, Scope.tokenOf_eq_read]
  cases Scope.ruleOf word with
  | literal value => exact .ok (.operand (hsame.worth_eq rfl))
  | column => exact .ok (.operand (hsame.worth_eq rfl))
  | closing => exact .ok .closing
  | operator op => exact .ok (.operator op)
  | opening => exact .ok .opening
  | call => exact hsame.call_rel word
  | lag => exact hsame.lag_rel fun name hname => (hword name hname).2
  | name =>
      have hname : word ∉ hidden := fun hmem => (hword word hmem).1 rfl
      rw [Scope.Rule.read, Scope.Rule.read]
      rcases hsame.find? hname with ⟨hnone, hnone'⟩ | ⟨number, number', hfind, hfind', hseries⟩
      · simp only [scope, hnone, hnone']
        exact .error _
      · simp only [scope, hfind, hfind']
        exact .ok (.operand (hsame.worth_reference hseries word))

/-! ## Reading texts -/

variable {source : String}

/-- A text that mentions no hidden name compiles to formulas that mean the same, or fails alike. -/
theorem compile_agree (hsame : SameBut hidden session session')
    (hfree : ∀ name ∈ hidden, ¬Mentions source name) :
    Agree (fun formula formula' => formula'.checkArity = formula.checkArity ∧
        session'.env.meaning session'.bindings.formulas formula' =
          session.env.meaning session.bindings.formulas formula)
      (session.compile source) (session'.compile source) := by
  have hcompile := Formula.compile_rel source fun word hword =>
    hsame.tokenOf_rel fun name hname => not_or.mp fun hmentions =>
      hfree name hname ⟨word, hword, hmentions⟩
  generalize hfound : Formula.compile session.scope source = found at hcompile
  generalize hfound' : Formula.compile session'.scope source = found' at hcompile
  rw [compile, compile, hfound, hfound']
  cases hcompile with
  | error e => exact .error e
  | ok hnodes =>
      have harity := Formula.arityFrom_eq_of_rel hnodes 0
      exact .ok ⟨harity, reduce_eq_of_rel (fun _ _ hworth => hworth) hnodes []⟩

theorem evaluateCondition (hsame : SameBut hidden session session')
    (hfree : ∀ name ∈ hidden, ¬Mentions source name) :
    (session'.evaluateCondition source).1 = (session.evaluateCondition source).1 := by
  have hmeaning : session'.meaning source = session.meaning source := by
    rw [meaning, meaning]
    generalize session.compile source = found, session'.compile source = found',
      hsame.compile_agree hfree = hcompile
    cases hcompile with
    | error e => rfl
    | ok hformula => exact congrArg (Except.mapError ExpressionError.evaluation) hformula.2
  show (session'.evaluate source).1.bind condition = (session.evaluate source).1.bind condition
  rw [(evaluate_of_sound hsame.orderly'.sound source).1, hmeaning,
    (evaluate_of_sound hsame.orderly.sound source).1]

end SameBut

/-! ## Definitions -/

variable {session : Session}

theorem Orderly.define_formula (horderly : session.Orderly) (name : String) (formula : Formula) :
    Orderly { session with bindings := session.bindings.define name formula } :=
  ⟨horderly.sound.define name formula, horderly.bounded.define name formula⟩

/-- A name that is defined stands for the meaning of its formula, and other names for what they
stood for. -/
theorem Orderly.standing_define (horderly : session.Orderly) (name other : String)
    (formula : Formula) :
    standing { session with bindings := session.bindings.define name formula } other =
      if other = name then some (session.env.meaning session.bindings.formulas formula)
      else session.standing other := by
  rw [standing, Bindings.find?_define]
  by_cases hother : other = name
  · rw [if_pos hother, if_pos hother]
    exact congrArg some (session.env.definition_length formula session.bindings.formulas)
  · rw [if_neg hother, if_neg hother, standing]
    apply Option.map_congr
    intro number hfind
    exact session.env.definition_cons_of_lt formula (horderly.bounded other number hfind)

/-- A definition makes no difference but for its name. -/
theorem Orderly.sameBut_define {next : Session} (horderly : session.Orderly)
    {name source : String} (hdefine : session.define name source = .ok next) :
    SameBut {name} session next := by
  obtain ⟨formula, -, -, rfl⟩ := exists_of_define hdefine
  refine ⟨rfl, ?_, horderly, horderly.define_formula name formula⟩
  intro other hother
  rw [horderly.standing_define, if_neg (Finset.notMem_singleton.mp hother)]

/-- A definition in both sessions whose text mentions no hidden name: its name stands for the same
in both then. -/
theorem SameBut.define {hidden : Finset String} {session session' : Session}
    (hsame : SameBut hidden session session') (name : String) {source : String}
    (hfree : ∀ other ∈ hidden, ¬Mentions source other) :
    Agree (SameBut (hidden.erase name)) (session.define name source)
      (session'.define name source) := by
  have hdefiniens : Agree (fun formula formula' =>
        session'.env.meaning session'.bindings.formulas formula' =
          session.env.meaning session.bindings.formulas formula)
      (session.definiens source) (session'.definiens source) := by
    refine ((hsame.compile_agree hfree).mapError ExpressionError.compile).bind ?_
    rintro formula formula' ⟨harity, hmeaning⟩
    rw [harity]
    cases formula.checkArity with
    | error e => exact .error _
    | ok _ => exact .ok hmeaning
  rw [define_eq_map, define_eq_map]
  refine hdefiniens.map fun formula formula' hmeaning => ?_
  refine ⟨hsame.env, ?_, hsame.orderly.define_formula name formula,
    hsame.orderly'.define_formula name formula'⟩
  intro other hother
  rw [hsame.orderly.standing_define, hsame.orderly'.standing_define]
  by_cases heq : other = name
  · rw [if_pos heq, if_pos heq, hmeaning]
  · rw [if_neg heq, if_neg heq]
    exact hsame.standing fun hmem => hother (Finset.mem_erase.mpr ⟨heq, hmem⟩)

end Session

end Screener
