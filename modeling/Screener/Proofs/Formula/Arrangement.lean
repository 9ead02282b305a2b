import Screener.Proofs.Formula.Pending

/-!
# Arrangements

When lexemes can be arranged, each kind of lexeme does one thing: an operand comes out, an operator
sends out the operators that bind at least as tightly, an opening parenthesis waits, a closing one
sends out what has waited since.  `Formula.Arranges` has a rule for each, and what holds of all
arrangements is proved by induction on the rules.
-/

namespace Screener

/-! ## What each kind of word does to the stack -/

theorem Scope.tokenOf_symbol (scope : Scope) (op : Operator) :
    scope.tokenOf op.symbol = .ok (.operator op) := by
  cases op <;> rfl

theorem Scope.tokenOf_opening (scope : Scope) : scope.tokenOf "(" = .ok .opening := rfl

theorem Scope.tokenOf_closing (scope : Scope) : scope.tokenOf ")" = .ok .closing := rfl

namespace Formula

variable {scope : Scope} {lexeme : Lexeme}

theorem classify_of_tokenOf {token : Token} (htoken : scope.tokenOf lexeme.text = .ok token) :
    scope.classify lexeme = .ok token := by
  rw [Scope.classify, htoken]
  rfl

theorem tokenOf_of_classify {token : Token} (hclassify : scope.classify lexeme = .ok token) :
    scope.tokenOf lexeme.text = .ok token :=
  mapError_eq_ok hclassify

theorem arrange_operand {o : Operand} (htoken : scope.tokenOf lexeme.text = .ok (.operand o))
    (rest : List Lexeme) (stack : List Pending) :
    arrange scope (lexeme :: rest) stack = (arrange scope rest stack).map ([.operand o] ++ ·) := by
  rw [arrange, classify_of_tokenOf htoken]
  rfl

theorem arrange_operator {op : Operator} (htoken : scope.tokenOf lexeme.text = .ok (.operator op))
    {ops : List Operator} {stack below : List Pending}
    (hpop : Pending.popTighter op stack = (ops, below)) (rest : List Lexeme) :
    arrange scope (lexeme :: rest) stack =
      (arrange scope rest (.operator op :: below)).map (ops.map .operator ++ ·) := by
  rw [arrange, classify_of_tokenOf htoken]
  simp only [hpop]

theorem arrange_opening (htoken : scope.tokenOf lexeme.text = .ok .opening) (rest : List Lexeme)
    (stack : List Pending) :
    arrange scope (lexeme :: rest) stack =
      arrange scope rest (.paren lexeme.position :: stack) := by
  rw [arrange, classify_of_tokenOf htoken]

theorem arrange_closing (htoken : scope.tokenOf lexeme.text = .ok .closing)
    {ops : List Operator} {stack below : List Pending}
    (hpop : Pending.popParen? stack = some (ops, below)) (rest : List Lexeme) :
    arrange scope (lexeme :: rest) stack =
      (arrange scope rest below).map (ops.map .operator ++ ·) := by
  rw [arrange, classify_of_tokenOf htoken]
  simp only [hpop]

/-! ## Taking an arrangement apart -/

/-- How lexemes become nodes when a stack waits before them. -/
inductive Arranges (scope : Scope) : List Lexeme → List Pending → List Node → Prop
  | done (ops : List Operator) : Arranges scope [] (ops.map .operator) (ops.map .operator)
  | operand {lexeme : Lexeme} {o : Operand} {rest : List Lexeme} {stack : List Pending}
      {nodes : List Node} (htoken : scope.tokenOf lexeme.text = .ok (.operand o))
      (hrest : Arranges scope rest stack nodes) :
      Arranges scope (lexeme :: rest) stack (.operand o :: nodes)
  | operator {lexeme : Lexeme} {op : Operator} {rest : List Lexeme} {stack below : List Pending}
      {ops : List Operator} {nodes : List Node}
      (htoken : scope.tokenOf lexeme.text = .ok (.operator op))
      (hpop : Pending.popTighter op stack = (ops, below))
      (hrest : Arranges scope rest (.operator op :: below) nodes) :
      Arranges scope (lexeme :: rest) stack (ops.map .operator ++ nodes)
  | opening {lexeme : Lexeme} {rest : List Lexeme} {stack : List Pending} {nodes : List Node}
      (htoken : scope.tokenOf lexeme.text = .ok .opening)
      (hrest : Arranges scope rest (.paren lexeme.position :: stack) nodes) :
      Arranges scope (lexeme :: rest) stack nodes
  | closing {lexeme : Lexeme} {rest : List Lexeme} {stack below : List Pending}
      {ops : List Operator} {nodes : List Node}
      (htoken : scope.tokenOf lexeme.text = .ok .closing)
      (hpop : Pending.popParen? stack = some (ops, below))
      (hrest : Arranges scope rest below nodes) :
      Arranges scope (lexeme :: rest) stack (ops.map .operator ++ nodes)

theorem arranges_of_arrange {lexemes : List Lexeme} {stack : List Pending} {nodes : List Node}
    (harrange : arrange scope lexemes stack = .ok nodes) : Arranges scope lexemes stack nodes := by
  induction lexemes generalizing stack nodes with
  | nil =>
      obtain ⟨ops, rfl, rfl⟩ := Pending.popAll_eq_ok harrange
      exact .done ops
  | cons lexeme rest ih =>
      rw [arrange] at harrange
      cases hclassify : scope.classify lexeme with
      | error e =>
          rw [hclassify] at harrange
          cases harrange
      | ok token =>
          have htoken := tokenOf_of_classify hclassify
          rw [hclassify] at harrange
          cases token with
          | operand o =>
              obtain ⟨inner, hinner, rfl⟩ := map_eq_ok harrange
              exact .operand htoken (ih hinner)
          | operator op =>
              obtain ⟨inner, hinner, rfl⟩ := map_eq_ok harrange
              exact .operator htoken rfl (ih hinner)
          | opening => exact .opening htoken (ih harrange)
          | closing =>
              cases hpop : Pending.popParen? stack with
              | none =>
                  simp only [hpop] at harrange
                  cases harrange
              | some popped =>
                  obtain ⟨ops, below⟩ := popped
                  simp only [hpop] at harrange
                  obtain ⟨inner, hinner, rfl⟩ := map_eq_ok harrange
                  exact .closing htoken hpop (ih hinner)

/-- Every lexeme of an arrangement has a meaning. -/
theorem Arranges.exists_token {lexemes : List Lexeme} {stack : List Pending} {nodes : List Node}
    (harranges : Arranges scope lexemes stack nodes) {lexeme : Lexeme} (hmem : lexeme ∈ lexemes) :
    ∃ token, scope.tokenOf lexeme.text = .ok token := by
  induction harranges with
  | done ops => cases hmem
  | operand htoken _ ih | operator htoken _ _ ih | opening htoken _ ih | closing htoken _ _ ih =>
      rcases List.mem_cons.mp hmem with rfl | hrest
      · exact ⟨_, htoken⟩
      · exact ih hrest

/-- The lexemes of a text that compiles are arranged to its nodes. -/
theorem arranges_of_compile {source : String} {formula : Formula}
    (hcompile : compile scope source = .ok formula) :
    Arranges scope (Lexeme.ofText source) [] formula.nodes := by
  unfold compile at hcompile
  cases hlexemes : Lexeme.ofText source with
  | nil =>
      rw [hlexemes] at hcompile
      cases hcompile
  | cons lexeme rest =>
      rw [hlexemes] at hcompile
      obtain ⟨nodes, hnodes, rfl⟩ := map_eq_ok hcompile
      exact arranges_of_arrange hnodes

end Formula

end Screener
