import Screener.Proofs.Entries
import Screener.Proofs.Formula.Agreement
import Screener.Proofs.Formula.Arrangement

/-!
# What a definition changes

A definition gives a name a new meaning and changes nothing else.  The name stands for the number of
the new definition and other words are read as before (`Scope.tokenOf_define_of_ne`).  The rule by
which a word is read is found before any definition is looked up (`Scope.tokenOf_eq_read`), so only
the rules for lags and for names can notice that there is a new one.

What words refer to has been defined (`Scope.lt_next_of_denotes`), because the numbers that names stand
for are numbers of definitions that have been made (`Bindings.Bounded`), which every definition keeps.
So a later definition does not change what they mean.
-/

namespace Screener

/-! ## Names and numbers -/

namespace Bindings

/-- After a definition its name stands for it, and other names for what they stood for. -/
theorem find?_define (bindings : Bindings) (name other : String) (formula : Formula) :
    (bindings.define name formula).find? other =
      if other = name then some bindings.next else bindings.find? other := by
  rw [find?, define, List.lookup_cons]
  by_cases hother : other = name
  · rw [if_pos hother, hother, beq_self_eq_true]
  · rw [if_neg hother, beq_false_of_ne hother]
    exact lookup_filter_ne bindings.names hother

/-- Every name stands for a definition that has been made. -/
def Bounded (bindings : Bindings) : Prop :=
  ∀ name number, bindings.find? name = some number → number < bindings.next

theorem bounded_empty : empty.Bounded := by
  intro name number hfind
  cases hfind

theorem Bounded.define {bindings : Bindings} (hbounded : bindings.Bounded) (name : String)
    (formula : Formula) : (bindings.define name formula).Bounded := by
  intro other number hfind
  show number < bindings.next + 1
  rw [find?_define] at hfind
  split at hfind
  · obtain rfl := Option.some.inj hfind
    exact Nat.lt_succ_self _
  · exact Nat.lt_succ_of_lt (hbounded other number hfind)

end Bindings

/-! ## The rules for words -/

namespace Scope

open Text

/-- The rule by which a word is read.  Which one it is depends on the word only. -/
inductive Rule where
  | literal (value : Float)
  | column
  | closing
  | lag
  | call
  | operator (op : Operator)
  | opening
  | name

/-- The first rule that fits a word. -/
def ruleOf (text : String) : Rule :=
  let cs := text.toList
  match literal? cs with
  | some value => .literal value
  | none =>
    if text ∈ Frame.columns then .column
    else if cs = [')'] then .closing
    else if cs.getLast? = some ')' then
      if '.' ∈ cs ∧ occurs "shift".toList cs then .lag else .call
    else match Operator.ofSymbol? text with
      | some op => .operator op
      | none => if cs = ['('] then .opening else .name

/-- What a word means under a rule. -/
def Rule.read (scope : Scope) (text : String) : Rule → Except CompileFault Token
  | literal value => .ok (.operand (.literal value))
  | column => .ok (.operand (.column text))
  | closing => .ok .closing
  | lag => scope.lag text
  | call => scope.call text
  | operator op => .ok (.operator op)
  | opening => .ok .opening
  | name =>
    match scope.bindings.find? text with
    | some definition => .ok (.operand (.reference text definition))
    | none => .error (.unknownToken text)

theorem tokenOf_eq_read (scope : Scope) (text : String) :
    scope.tokenOf text = (ruleOf text).read scope text := by
  simp only [tokenOf, ruleOf]
  cases literal? text.toList with
  | some value => rfl
  | none =>
      by_cases hcolumn : text ∈ Frame.columns
      · simp only [if_pos hcolumn, Rule.read]
      by_cases hclosing : text.toList = [')']
      · simp only [if_neg hcolumn, if_pos hclosing, Rule.read]
      by_cases hending : text.toList.getLast? = some ')'
      · by_cases hlag : '.' ∈ text.toList ∧ occurs "shift".toList text.toList
        · simp only [if_neg hcolumn, if_neg hclosing, if_pos hending, if_pos hlag, Rule.read]
        · simp only [if_neg hcolumn, if_neg hclosing, if_pos hending, if_neg hlag, Rule.read]
      simp only [if_neg hcolumn, if_neg hclosing, if_neg hending]
      cases Operator.ofSymbol? text with
      | some op => rfl
      | none =>
          by_cases hopening : text.toList = ['(']
          · simp only [if_pos hopening, Rule.read]
          · simp only [if_neg hopening]
            rfl

/-! ## Words -/

/-- Something without blank characters. -/
structure IsWord (text : String) : Prop where
  nonempty : text.toList ≠ []
  solid : ∀ c ∈ text.toList, isBlank c = false

theorem solid_of_all {word : List Char} (hall : (word.all fun c => !isBlank c) = true) :
    ∀ c ∈ word, isBlank c = false := by
  intro c hc
  simpa using List.all_eq_true.mp hall c hc

/-- A word that is read as a variable if it stands for a definition: it is no number, column,
operator or parenthesis, and it does not end like a lag or a call. -/
structure IsName (name : String) : Prop where
  nonempty : name.toList ≠ []
  solid : ∀ c ∈ name.toList, isBlank c = false
  number : literal? name.toList = none
  column : name ∉ Frame.columns
  operator : Operator.ofSymbol? name = none
  opening : name ≠ "("
  ending : name.toList.getLast? ≠ some ')'

theorem IsName.isWord {name : String} (hname : IsName name) : IsWord name :=
  ⟨hname.nonempty, hname.solid⟩

theorem IsName.rule {name : String} (hname : IsName name) : ruleOf name = .name := by
  have hclosing : name.toList ≠ [')'] := by
    intro h
    exact hname.ending (by rw [h]; rfl)
  have hopening : name.toList ≠ ['('] := by
    intro h
    exact hname.opening (String.toList_inj.mp h)
  simp only [ruleOf, hname.number, if_neg hname.column, if_neg hclosing, if_neg hname.ending,
    hname.operator, if_neg hopening]

/-- A word to which no other rule applies is a name. -/
theorem IsWord.isName {word : String} (hword : IsWord word) (hrule : ruleOf word = .name) :
    IsName word := by
  simp only [ruleOf] at hrule
  split at hrule
  · cases hrule
  next hliteral =>
  split at hrule
  · cases hrule
  next hcolumn =>
  split at hrule
  · cases hrule
  split at hrule
  · split at hrule <;> cases hrule
  next hending =>
  split at hrule
  · cases hrule
  next hoperator =>
  split at hrule
  · cases hrule
  next hopening =>
  refine ⟨hword.nonempty, hword.solid, hliteral, hcolumn, hoperator, ?_, hending⟩
  rintro rfl
  exact hopening rfl

/-- A lag of a name, for any number of rows. -/
def IsLagOf (name text : String) : Prop := ∃ periods, lagParts? text.toList = some (name, periods)

/-- The scope after a definition. -/
def define (scope : Scope) (name : String) (formula : Formula) : Scope :=
  { scope with bindings := scope.bindings.define name formula }

theorem tokenOf_define_self (scope : Scope) {name : String} (hname : IsName name)
    (formula : Formula) :
    (scope.define name formula).tokenOf name =
      .ok (.operand (.reference name scope.bindings.next)) := by
  have hfind : (scope.define name formula).bindings.find? name = some scope.bindings.next := by
    rw [define, Bindings.find?_define, if_pos rfl]
  rw [tokenOf_eq_read, hname.rule, Rule.read, hfind]

theorem lag_define_of_ne (scope : Scope) {name text : String} (hlag : ¬ IsLagOf name text)
    (formula : Formula) : (scope.define name formula).lag text = scope.lag text := by
  rw [lag, lag]
  cases hparts : lagParts? text.toList with
  | none => rfl
  | some parts =>
      obtain ⟨other, periods⟩ := parts
      have hother : other ≠ name := by
        rintro rfl
        exact hlag ⟨periods, hparts⟩
      simp only [define, Bindings.find?_define, if_neg hother]

/-- Other words are read as before, lags of the name apart. -/
theorem tokenOf_define_of_ne (scope : Scope) {name text : String} (hne : text ≠ name)
    (hlag : ¬ IsLagOf name text) (formula : Formula) :
    (scope.define name formula).tokenOf text = scope.tokenOf text := by
  have hfind : (scope.define name formula).bindings.find? text = scope.bindings.find? text := by
    rw [define, Bindings.find?_define, if_neg hne]
  rw [tokenOf_eq_read, tokenOf_eq_read]
  cases ruleOf text with
  | lag => exact scope.lag_define_of_ne hlag formula
  | name => rw [Rule.read, Rule.read, hfind]
  | _ => rfl

/-- What a word can stand for as an operand, with what decides it for calls, lags and variables. -/
inductive Denotes (scope : Scope) (text : String) : Operand → Prop
  | literal (value : Float) : Denotes scope text (.literal value)
  | column : Denotes scope text (.column text)
  | call {c : Call} (hcontains : scope.registry.contains c.name = true) :
      Denotes scope text (.call c)
  | lag {name : String} {periods : Int} {number : Nat}
      (hparts : lagParts? text.toList = some (name, periods))
      (hfind : scope.bindings.find? name = some number) :
      Denotes scope text (.lag name periods number)
  | reference {number : Nat} (hfind : scope.bindings.find? text = some number) :
      Denotes scope text (.reference text number)

/-- What is read as a lag is a lag of a name that stands for a definition. -/
theorem exists_of_lag_eq_ok {scope : Scope} {text : String} {token : Token}
    (htoken : scope.lag text = .ok token) :
    ∃ name periods number, lagParts? text.toList = some (name, periods) ∧
      scope.bindings.find? name = some number ∧ token = .operand (.lag name periods number) := by
  unfold lag at htoken
  split at htoken
  · cases htoken
  next name periods hparts =>
  split at htoken
  · cases htoken
  next number hfind =>
  cases htoken
  exact ⟨name, periods, number, hparts, hfind, rfl⟩

/-- What is read as a call is a call of an indicator that is registered. -/
theorem exists_of_call_eq_ok {scope : Scope} {text : String} {token : Token}
    (htoken : scope.call text = .ok token) :
    ∃ c : Call, scope.registry.contains c.name = true ∧ token = .operand (.call c) := by
  unfold call at htoken
  split at htoken
  · cases htoken
  · cases htoken
  · simp only at htoken
    split at htoken
    · next hcontains =>
      obtain ⟨values, -, rfl⟩ := map_eq_ok htoken
      exact ⟨_, hcontains, rfl⟩
    · cases htoken

theorem denotes_of_tokenOf {scope : Scope} {text : String} {o : Operand}
    (htoken : scope.tokenOf text = .ok (.operand o)) : scope.Denotes text o := by
  rw [tokenOf_eq_read] at htoken
  generalize ruleOf text = rule at htoken
  cases rule with
  | literal value =>
      cases htoken
      exact .literal value
  | column =>
      cases htoken
      exact .column
  | lag =>
      obtain ⟨name, periods, number, hparts, hfind, hlag⟩ := exists_of_lag_eq_ok htoken
      cases hlag
      exact .lag hparts hfind
  | call =>
      obtain ⟨c, hcontains, hcall⟩ := exists_of_call_eq_ok htoken
      cases hcall
      exact .call hcontains
  | name =>
      rw [Rule.read] at htoken
      cases hfind : scope.bindings.find? text with
      | none =>
          rw [hfind] at htoken
          cases htoken
      | some number =>
          rw [hfind] at htoken
          cases htoken
          exact .reference hfind
  | closing => cases htoken
  | operator op => cases htoken
  | opening => cases htoken

/-- What an operand refers to has been defined. -/
theorem lt_next_of_denotes {scope : Scope} (hbounded : scope.bindings.Bounded) {text : String}
    {o : Operand} (hdenotes : scope.Denotes text o) {number : Nat}
    (hnumber : o.definition? = some number) : number < scope.bindings.next := by
  cases hdenotes with
  | literal value => cases hnumber
  | column => cases hnumber
  | call hcontains => cases hnumber
  | lag hparts hfind =>
      cases hnumber
      exact hbounded _ _ hfind
  | reference hfind =>
      cases hnumber
      exact hbounded _ _ hfind

end Scope

/-! ## Nodes -/

/-- The operands among the nodes of an arrangement are what its lexemes stand for. -/
theorem Formula.Arranges.exists_tokenOf {scope : Scope} {lexemes : List Lexeme}
    {stack : List Pending} {nodes : List Node} (harranges : Arranges scope lexemes stack nodes)
    {o : Operand} (hmem : .operand o ∈ nodes) :
    ∃ lexeme ∈ lexemes, scope.tokenOf lexeme.text = .ok (.operand o) := by
  have hnone : ∀ ops : List Operator, Node.operand o ∉ ops.map Node.operator := by
    intro ops hops
    obtain ⟨op, -, heq⟩ := List.mem_map.mp hops
    cases heq
  have hlater : ∀ {first : Lexeme} {rest : List Lexeme},
      (∃ lexeme ∈ rest, scope.tokenOf lexeme.text = .ok (.operand o)) →
      ∃ lexeme ∈ first :: rest, scope.tokenOf lexeme.text = .ok (.operand o) := by
    rintro first rest ⟨lexeme, hlexeme, htoken⟩
    exact ⟨lexeme, List.mem_cons_of_mem first hlexeme, htoken⟩
  induction harranges with
  | done ops => exact absurd hmem (hnone ops)
  | @operand lexeme p _ _ _ htoken _ ih =>
      rcases List.mem_cons.mp hmem with heq | hmem
      · cases heq
        exact ⟨lexeme, List.mem_cons_self, htoken⟩
      · exact hlater (ih hmem)
  | operator htoken hpop _ ih =>
      have hrest := (List.mem_append.mp hmem).resolve_left (hnone _)
      exact hlater (ih hrest)
  | opening htoken _ ih => exact hlater (ih hmem)
  | closing htoken hpop _ ih =>
      have hrest := (List.mem_append.mp hmem).resolve_left (hnone _)
      exact hlater (ih hrest)

/-- An operand depends on the definition that it refers to only. -/
theorem Operand.series_congr {m : Type → Type} [Monad m] [MonadExceptOf EvaluationError m]
    (env : Environment) (call : Call → m Series) {definition definition' : Nat → m Series}
    {o : Operand} (hdefinition : ∀ number, o.definition? = some number →
      definition number = definition' number) :
    o.series env call definition = o.series env call definition' := by
  cases o with
  | literal value => rfl
  | column name => rfl
  | call c => rfl
  | reference name number => rw [series, series, content, content, hdefinition number rfl]
  | lag name periods number => rw [series, series, content, content, hdefinition number rfl]

end Screener
