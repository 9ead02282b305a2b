import Screener.Formula.Reduce
import Screener.Proofs.Formula.Arrangement

/-!
# What happens between parentheses

What stands between parentheses is compiled as it would be on its own, wherever the parentheses stand
(`Formula.arrange_group`): an operator inside does not reach beyond the opening parenthesis, and
the closing one takes out what the end of a text would take out.  It is the same when nodes are
reduced: nodes that leave exactly one value never touch what lies below them on the stack
(`reduce_append`).

Neither says that the part between the parentheses is grammatical.  A part that is accepted in an odd
shape, such as `close open +`, is isolated all the same.
-/

namespace Screener

/-! ## Operators do not leave the parentheses -/

namespace Pending

theorem popTighter_append_paren (op : Operator) (inner : List Pending) (position : Nat)
    (stack : List Pending) :
    popTighter op (inner ++ .paren position :: stack) =
      ((popTighter op inner).1, (popTighter op inner).2 ++ .paren position :: stack) := by
  induction inner with
  | nil => rfl
  | cons pending rest ih =>
      cases pending with
      | paren inside => rfl
      | operator top =>
          rw [List.cons_append, popTighter, popTighter]
          split
          · rw [ih]
          · rfl

theorem popParen?_append_of_eq_some {inner below : List Pending} {ops : List Operator}
    (hpop : popParen? inner = some (ops, below)) (stack : List Pending) :
    popParen? (inner ++ stack) = some (ops, below ++ stack) := by
  obtain ⟨position, rfl⟩ := popParen?_eq_some hpop
  rw [List.append_assoc, List.cons_append]
  exact popParen?_append ops position (below ++ stack)

end Pending

namespace Formula

variable {scope : Scope}

/-- What is compiled above an open parenthesis, up to the parenthesis that closes it. -/
theorem Arranges.append_closing {lexemes : List Lexeme} {inner : List Pending} {nodes : List Node}
    (hinner : Arranges scope lexemes inner nodes) {closing : Lexeme}
    (hclosing : scope.tokenOf closing.text = .ok .closing) (rest : List Lexeme) (position : Nat)
    (stack : List Pending) :
    arrange scope (lexemes ++ closing :: rest) (inner ++ .paren position :: stack) =
      (arrange scope rest stack).map (nodes ++ ·) := by
  induction hinner with
  | done ops =>
      -- the closing parenthesis takes out what the end of the text would
      exact arrange_closing hclosing (Pending.popParen?_append ops position stack) rest
  | operand htoken _ ih =>
      rw [List.cons_append, arrange_operand htoken, ih, map_append_map]
      rfl
  | @operator _ op _ inner below ops nodes htoken hpop _ ih =>
      have hpops : Pending.popTighter op (inner ++ .paren position :: stack) =
          (ops, below ++ .paren position :: stack) := by
        rw [Pending.popTighter_append_paren, hpop]
      rw [List.cons_append, arrange_operator htoken hpops, ← List.cons_append, ih, map_append_map]
  | opening htoken _ ih =>
      rw [List.cons_append, arrange_opening htoken]
      exact ih
  | closing htoken hpop _ ih =>
      have hpops := Pending.popParen?_append_of_eq_some hpop (.paren position :: stack)
      rw [List.cons_append, arrange_closing htoken hpops, ih, map_append_map]

/-- Between parentheses a text is compiled to what it is compiled to alone. -/
theorem arrange_group {lexemes : List Lexeme} {nodes : List Node}
    (halone : arrange scope lexemes [] = .ok nodes) {opening closing : Lexeme}
    (hopening : scope.tokenOf opening.text = .ok .opening)
    (hclosing : scope.tokenOf closing.text = .ok .closing) (rest : List Lexeme)
    (stack : List Pending) :
    arrange scope (opening :: lexemes ++ closing :: rest) stack =
      (arrange scope rest stack).map (nodes ++ ·) := by
  rw [List.cons_append, arrange_opening hopening]
  exact (arranges_of_arrange halone).append_closing hclosing rest opening.position stack

end Formula

/-! ## Nodes that leave one value do not look below it -/

variable {m : Type → Type} [Monad m] [MonadExceptOf EvaluationError m] [LawfulMonad m]

/-- Nodes that make one value of what they find on top push this value onto what lies below. -/
theorem reduce_append (operand : Operand → m Series) {inner : List Node} {top : List Series}
    (harity : Formula.arityFrom top.length inner = .ok ()) (rest : List Node)
    (stack : List Series) :
    reduce operand (inner ++ rest) (top ++ stack) =
      reduce operand inner top >>= fun series => reduce operand rest (series :: stack) := by
  induction inner generalizing top with
  | nil =>
      match top with
      | [] => cases harity
      | [series] =>
          show reduce operand rest (series :: stack) = pure series >>= _
          rw [pure_bind]
      | first :: second :: others => cases harity
  | cons node inner ih =>
      cases node with
      | operand o =>
          rw [List.cons_append, reduce, reduce, bind_assoc]
          congr 1
          funext series
          have hrest : Formula.arityFrom (series :: top).length inner = .ok () := harity
          exact ih hrest
      | operator op =>
          match top with
          | [] => cases harity
          | [series] => cases harity
          | right :: left :: others =>
              rw [List.cons_append, List.cons_append, List.cons_append, reduce, reduce, bind_assoc]
              rw [Formula.arityFrom, if_neg (by simp)] at harity
              congr 1
              funext series
              have hrest : Formula.arityFrom (series :: others).length inner = .ok () := harity
              exact ih hrest

/-- Nodes that leave one value on their own leave it wherever they stand. -/
theorem reduce_closed_append (operand : Operand → m Series) {inner : List Node}
    (harity : Formula.arityFrom 0 inner = .ok ()) (rest : List Node) (stack : List Series) :
    reduce operand (inner ++ rest) stack =
      reduce operand inner [] >>= fun series => reduce operand rest (series :: stack) := by
  have hempty : Formula.arityFrom ([] : List Series).length inner = .ok () := harity
  exact reduce_append operand hempty rest stack

end Screener
