import Screener.Indicator.Standard
import Screener.Proofs.Formula.Stops

/-!
# What a text compiles to or why it does not

Whether a text compiles is decided in three stages.  It must have a lexeme; read from the left,
every lexeme must mean something and every closing parenthesis have one to close (`Readable`); and
every opening parenthesis must be closed.  The first stage that fails gives the error (`Fails`):
within the second it is the first lexeme that stops the reading, within the third the last
parenthesis that is never closed.  A text that passes all three compiles, and its nodes are its
lexemes other than parentheses, each once, the operands in their order
(`Formula.compile_outcome`).

## Strategy

Compilation finds the faults of the second stage while it reads and those of the third at the end.
The two are kept apart by what is known when a part of the lexemes has been read without a fault:
the parentheses on the stack are those that the part leaves open.  So a closing parenthesis finds
none on the stack exactly if as many have been closed as opened before it
(`Formula.arrange_of_stopsAt`), and at the end the topmost is the last that is never closed
(`Formula.arrange_of_readable`).
-/

namespace Screener

open Lexeme (openings closings ClosesNone)

/-- The errors of lexemes: there are none of them, reading stops at the first that stops it, or all
can be read and the last opening parenthesis that is never closed is to blame. -/
inductive Fails (scope : Scope) : List Lexeme → CompileError → Prop
  | empty : Fails scope [] ⟨.emptyExpression, 0⟩
  | stopped {before after : List Lexeme} {lexeme : Lexeme} {e : CompileError}
      (hbefore : Readable scope before) (hstops : StopsAt scope before lexeme e) :
      Fails scope (before ++ lexeme :: after) e
  | unclosed {before after : List Lexeme} {opening : Lexeme}
      (hreadable : Readable scope (before ++ opening :: after)) (hopening : opening.text = "(")
      (hnever : ClosesNone after)
      (hlast : ∀ between later rest, after = between ++ later :: rest → later.text = "(" →
        ¬ ClosesNone rest) :
      Fails scope (before ++ opening :: after) ⟨.mismatchedParentheses, opening.position⟩

/-! ## Two kinds of faults -/

namespace Formula

variable {scope : Scope}

/-- The first lexeme that stops the reading gives the error. -/
theorem arrange_of_stopsAt {before after : List Lexeme} {lexeme : Lexeme} {e : CompileError}
    (hbefore : Readable scope before) (hstops : StopsAt scope before lexeme e) :
    arrange scope (before ++ lexeme :: after) [] = .error e := by
  obtain ⟨nodes, stack, hleaves, harrange⟩ := exists_arrange_append hbefore
  rw [harrange]
  cases hstops with
  | meaningless htoken =>
      rw [arrange, Scope.classify, htoken]
      rfl
  | unopened hclosing hcount =>
      -- as many parentheses have been closed as opened, so none waits
      have hnone : Pending.positions stack = [] := by
        have hequal := hleaves.openings_eq
        exact List.eq_nil_of_length_eq_zero (by omega)
      rw [arrange, classify_of_tokenOf (Scope.tokenOf_eq_closing_iff.mpr hclosing)]
      simp only [Pending.popParen?_of_positions_eq_nil hnone]
      rfl

/-- Lexemes that can be read and close all their parentheses are arranged, and otherwise the last
parenthesis that is never closed gives the error. -/
theorem arrange_of_readable {lexemes : List Lexeme} (hreadable : Readable scope lexemes) :
    (Lexeme.Balanced lexemes ∧ ∃ nodes, arrange scope lexemes [] = .ok nodes) ∨
      ∃ before opening after, lexemes = before ++ opening :: after ∧ opening.text = "(" ∧
        Lexeme.Balanced after ∧
        arrange scope lexemes [] = .error ⟨.mismatchedParentheses, opening.position⟩ := by
  obtain ⟨nodes, stack, hleaves, harrange⟩ := exists_arrange_append hreadable
  have hall := harrange []
  rw [List.append_nil, arrange] at hall
  cases hpositions : Pending.positions stack with
  | nil =>
      obtain ⟨waiting, hpop⟩ := Pending.popAll_of_positions_eq_nil hpositions
      rw [hpositions] at hleaves
      cases hleaves with
      | balanced hbalanced => exact .inl ⟨hbalanced, nodes ++ waiting, by rw [hall, hpop]; rfl⟩
  | cons position outer =>
      rw [hpositions] at hleaves
      obtain ⟨before, opening, after, rfl, hopening, rfl, hafter⟩ := hleaves.exists_last
      refine .inr ⟨before, opening, after, rfl, hopening, hafter, ?_⟩
      rw [hall, Pending.popAll_of_positions_eq_cons hpositions]
      rfl

/-! ## The error of a text -/

/-- Every error of lexemes is the one that comes out. -/
theorem arrange_of_fails {lexemes : List Lexeme} {e : CompileError} (hfails : Fails scope lexemes e)
    (hlexemes : lexemes ≠ []) : arrange scope lexemes [] = .error e := by
  cases hfails with
  | empty => exact absurd rfl hlexemes
  | stopped hbefore hstops => exact arrange_of_stopsAt hbefore hstops
  | @unclosed before after opening hreadable hopening hnever hlast =>
      rcases arrange_of_readable hreadable with
        ⟨hbalanced, -⟩ | ⟨before', opening', after', hsplit, hopening', hafter', harrange⟩
      · exact absurd hnever (hbalanced.not_closesNone hopening)
      · -- the last parenthesis that is never closed stands in one place only
        rcases List.append_eq_append_iff.mp hsplit with
          ⟨between, rfl, hrest⟩ | ⟨between, rfl, hrest⟩
        · cases between with
          | nil =>
              cases hrest
              exact harrange
          | cons first between =>
              obtain ⟨rfl, rfl⟩ := List.cons.inj hrest
              exact absurd hafter'.closesNone (hlast between opening' after' rfl hopening')
        · cases between with
          | nil =>
              cases hrest
              exact harrange
          | cons first between =>
              obtain ⟨rfl, rfl⟩ := List.cons.inj hrest
              exact absurd hnever (hafter'.not_closesNone hopening)

theorem fails_or_exists_arrange (scope : Scope) (lexemes : List Lexeme) :
    (∃ e, Fails scope lexemes e) ∨ ∃ nodes, arrange scope lexemes [] = .ok nodes := by
  by_cases hreadable : Readable scope lexemes
  · rcases arrange_of_readable hreadable with
      ⟨-, nodes, harrange⟩ | ⟨before, opening, after, rfl, hopening, hafter, -⟩
    · exact .inr ⟨nodes, harrange⟩
    · refine .inl ⟨_, .unclosed hreadable hopening hafter.closesNone ?_⟩
      rintro between later rest rfl hlater
      exact hafter.not_closesNone hlater
  · obtain ⟨before, lexeme, after, e, rfl, hbefore, hstops⟩ := Readable.exists_stopsAt hreadable
    exact .inl ⟨e, .stopped hbefore hstops⟩

theorem compile_of_fails {source : String} {e : CompileError}
    (hfails : Fails scope (Lexeme.ofText source) e) : compile scope source = .error e := by
  rw [compile]
  cases hlexemes : Lexeme.ofText source with
  | nil =>
      rw [hlexemes] at hfails
      generalize hempty : ([] : List Lexeme) = lexemes at hfails
      cases hfails with
      | empty => rfl
      | stopped hbefore hstops => simp at hempty
      | unclosed hreadable hopening hnever hlast => simp at hempty
  | cons lexeme rest =>
      rw [hlexemes] at hfails
      simp only [arrange_of_fails hfails (List.cons_ne_nil lexeme rest)]
      rfl

theorem compile_eq_error_iff (source : String) (e : CompileError) :
    compile scope source = .error e ↔ Fails scope (Lexeme.ofText source) e := by
  refine ⟨fun herror => ?_, compile_of_fails⟩
  rcases fails_or_exists_arrange scope (Lexeme.ofText source) with
    ⟨e', hfails⟩ | ⟨nodes, harrange⟩
  · rw [compile_of_fails hfails] at herror
    cases herror
    exact hfails
  · rw [compile] at herror
    cases hlexemes : Lexeme.ofText source with
    | nil =>
        rw [hlexemes] at herror
        cases herror
        exact .empty
    | cons lexeme rest =>
        rw [hlexemes] at herror harrange
        simp only [harrange] at herror
        cases herror

/-- Only a text without lexemes is called empty. -/
theorem compile_eq_emptyExpression_iff (source : String) (position : Nat) :
    compile scope source = .error ⟨.emptyExpression, position⟩ ↔
      Lexeme.ofText source = [] ∧ position = 0 := by
  rw [compile_eq_error_iff]
  constructor
  · intro hfails
    generalize Lexeme.ofText source = lexemes at hfails ⊢
    generalize he : CompileError.mk .emptyExpression position = e at hfails
    cases hfails with
    | empty =>
        cases he
        exact ⟨rfl, rfl⟩
    | stopped hbefore hstops =>
        cases hstops with
        | meaningless htoken =>
            cases he
            exact absurd htoken (scope.tokenOf_ne_emptyExpression _)
        | unopened hclosing hcount => cases he
    | unclosed hreadable hopening hnever hlast => cases he
  · rintro ⟨hempty, rfl⟩
    rw [hempty]
    exact .empty

end Formula

/-! ## The nodes of a text -/

open scoped List

/-- Whether a token is a parenthesis. -/
def Token.isParenthesis : Token → Bool
  | .opening | .closing => true
  | .operand _ | .operator _ => false

/-- The operand that a token is. -/
def Token.operand? : Token → Option Operand
  | .operand o => some o
  | _ => none

/-- The operand that a node is. -/
def Node.operand? : Node → Option Operand
  | .operand o => some o
  | .operator _ => none

/-- The operators that wait on a stack, as tokens. -/
def Pending.operators (stack : List Pending) : List Token :=
  (stack.map Pending.token).filter (!·.isParenthesis)

theorem Pending.operators_append (ops : List Operator) (stack : List Pending) :
    Pending.operators (ops.map .operator ++ stack) =
      (ops.map Node.operator).map Node.token ++ Pending.operators stack := by
  induction ops with
  | nil => rfl
  | cons op rest ih => exact congrArg (Token.operator op :: ·) ih

namespace Formula

variable {scope : Scope}

theorem filterMap_operand?_append (ops : List Operator) (nodes : List Node) :
    (ops.map Node.operator ++ nodes).filterMap Node.operand? =
      nodes.filterMap Node.operand? := by
  induction ops with
  | nil => rfl
  | cons op rest ih => exact ih

/-- The nodes of an arrangement are the operands and operators among its lexemes, and the operators
that waited; operators move, operands keep their order. -/
theorem Arranges.exists_perm {lexemes : List Lexeme} {stack : List Pending} {nodes : List Node}
    (harranges : Arranges scope lexemes stack nodes) :
    ∃ tokens, lexemes.mapM scope.classify = .ok tokens ∧
      (nodes.map Node.token).Perm
        (tokens.filter (!·.isParenthesis) ++ Pending.operators stack) ∧
      nodes.filterMap Node.operand? = tokens.filterMap Token.operand? := by
  induction harranges with
  | done ops =>
      have hstack := Pending.operators_append ops []
      have hnodes := filterMap_operand?_append ops []
      rw [List.append_nil] at hstack hnodes
      refine ⟨[], rfl, ?_, hnodes⟩
      rw [hstack]
      exact .of_eq (List.append_nil _).symm
  | operand htoken _ ih =>
      obtain ⟨tokens, htokens, hperm, hoperands⟩ := ih
      exact ⟨_, mapM_classify_cons htoken htokens, hperm.cons _, congrArg (_ :: ·) hoperands⟩
  | @operator _ op _ stack below ops nodes htoken hpop _ ih =>
      obtain ⟨tokens, htokens, hperm, hoperands⟩ := ih
      have hstack := Pending.popTighter_append_eq op stack
      rw [hpop] at hstack
      refine ⟨_, mapM_classify_cons htoken htokens, ?_, ?_⟩
      · rw [← hstack, Pending.operators_append, List.map_append]
        generalize (ops.map Node.operator).map Node.token = settled
        calc
          settled ++ nodes.map Node.token
          _ ~ settled ++ (tokens.filter _ ++ Token.operator op :: Pending.operators below) :=
            hperm.append_left settled
          _ ~ settled ++ Token.operator op :: (tokens.filter _ ++ Pending.operators below) :=
            List.perm_middle.append_left settled
          _ ~ Token.operator op :: (settled ++ (tokens.filter _ ++ Pending.operators below)) :=
            List.perm_middle
          _ ~ Token.operator op :: (tokens.filter _ ++ (settled ++ Pending.operators below)) :=
            (List.perm_append_comm_assoc _ _ _).cons _
      · rw [filterMap_operand?_append, hoperands]
        rfl
  | opening htoken _ ih =>
      obtain ⟨tokens, htokens, hperm, hoperands⟩ := ih
      exact ⟨_, mapM_classify_cons htoken htokens, hperm, hoperands⟩
  | @closing _ _ stack below ops nodes htoken hpop _ ih =>
      obtain ⟨tokens, htokens, hperm, hoperands⟩ := ih
      obtain ⟨position, rfl⟩ := Pending.popParen?_eq_some hpop
      refine ⟨_, mapM_classify_cons htoken htokens, ?_, ?_⟩
      · rw [Pending.operators_append, List.map_append]
        generalize (ops.map Node.operator).map Node.token = settled
        calc
          settled ++ nodes.map Node.token
          _ ~ settled ++ (tokens.filter _ ++ Pending.operators below) := hperm.append_left settled
          _ ~ tokens.filter _ ++ (settled ++ Pending.operators below) :=
            List.perm_append_comm_assoc _ _ _
      · rw [filterMap_operand?_append, hoperands]
        rfl

theorem source_of_compile {source : String} {formula : Formula}
    (hcompile : compile scope source = .ok formula) : formula.source = source := by
  rw [compile] at hcompile
  split at hcompile
  · cases hcompile
  · obtain ⟨nodes, -, rfl⟩ := map_eq_ok hcompile
    rfl

/-- **What a text compiles to, or why it does not.**  The errors are those of `Fails`, of which a
text has one at most.  A text without any compiles to one node for each of its lexemes other than
parentheses, and the operands among the nodes stand in the order of the text. -/
theorem compile_outcome (scope : Scope) (source : String) :
    (∀ e, compile scope source = .error e ↔ Fails scope (Lexeme.ofText source) e) ∧
    (∀ position, compile scope source = .error ⟨.emptyExpression, position⟩ ↔
      Lexeme.ofText source = [] ∧ position = 0) ∧
    ((∀ e, ¬ Fails scope (Lexeme.ofText source) e) → ∃ formula tokens,
      compile scope source = .ok formula ∧ formula.source = source ∧
      (Lexeme.ofText source).mapM scope.classify = .ok tokens ∧
      (formula.nodes.map Node.token).Perm (tokens.filter (!·.isParenthesis)) ∧
      formula.nodes.filterMap Node.operand? = tokens.filterMap Token.operand?) := by
  refine ⟨compile_eq_error_iff source, compile_eq_emptyExpression_iff source, fun hnone => ?_⟩
  cases hcompile : compile scope source with
  | error e => exact absurd ((compile_eq_error_iff source e).mp hcompile) (hnone e)
  | ok formula =>
      obtain ⟨tokens, htokens, hperm, hoperands⟩ := (arranges_of_compile hcompile).exists_perm
      rw [Pending.operators, List.map_nil, List.filter_nil, List.append_nil] at hperm
      exact ⟨formula, tokens, rfl, source_of_compile hcompile, htokens, hperm, hoperands⟩

/-- A closing parenthesis too many comes before a word without a meaning and an open parenthesis,
and a text without faults compiles. -/
theorem compile_outcome_faultsInOrder :
    let scope : Scope := ⟨.standard, .empty⟩
    Fails scope (Lexeme.ofText "( close > 1 ) ) banana (") ⟨.mismatchedParentheses, 14⟩ ∧
      (∀ e, ¬ Fails scope (Lexeme.ofText "( close + 1 ) * volume") e) ∧
      ∃ formula tokens, compile scope "( close + 1 ) * volume" = .ok formula ∧
        (Lexeme.ofText "( close + 1 ) * volume").mapM scope.classify = .ok tokens ∧
        (formula.nodes.map Node.token).Perm (tokens.filter (!·.isParenthesis)) := by
  intro scope
  have hcompiles : (compile scope "( close + 1 ) * volume").toBool = true := by decide +kernel
  have hnone : ∀ e, ¬ Fails scope (Lexeme.ofText "( close + 1 ) * volume") e := by
    intro e hfails
    rw [((compile_outcome scope "( close + 1 ) * volume").1 e).mpr hfails] at hcompiles
    cases hcompiles
  refine ⟨?_, hnone, ?_⟩
  · have hlexemes : Lexeme.ofText "( close > 1 ) ) banana (" = [⟨"(", 0⟩, ⟨"close", 2⟩, ⟨">", 8⟩,
        ⟨"1", 10⟩, ⟨")", 12⟩, ⟨")", 14⟩, ⟨"banana", 16⟩, ⟨"(", 23⟩] := by decide +kernel
    have herror : compile scope "( close > 1 ) ) banana (" =
        .error ⟨.mismatchedParentheses, 14⟩ := by
      rw [compile, hlexemes]
      rfl
    exact ((compile_outcome scope "( close > 1 ) ) banana (").1 _).mp herror
  · obtain ⟨formula, tokens, hcompile, -, htokens, hperm, -⟩ :=
      (compile_outcome scope "( close + 1 ) * volume").2.2 hnone
    exact ⟨formula, tokens, hcompile, htokens, hperm⟩

end Formula

end Screener
