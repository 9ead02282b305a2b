import Screener.Proofs.Formula.Memory
import Screener.Proofs.Formula.Written

/-!
# Words and their places

A lexeme is a word and the place where it stands.  Compilation reads the words; the places come back
only in an error.  So compiling lexemes and then forgetting the place of an error is the same as
forgetting all places first (`Formula.arrange_unplaced`), and what a text compiles to, up to the
place of an error, depends on its words alone (`Formula.compile_unplaced`).
-/

namespace Screener

/-- A word whose place does not matter. -/
def Lexeme.ofWord (word : String) : Lexeme := ⟨word, 0⟩

/-- What waits, without its place. -/
def Pending.unplaced : Pending → Pending
  | .operator op => .operator op
  | .paren _ => .paren 0

/-- An error without its place. -/
def CompileError.unplaced (e : CompileError) : CompileError := ⟨e.fault, 0⟩

/-- A failure without its place: the kind of a compile error with the words it names, or an
evaluation error as it is. -/
def ExpressionError.unplaced : ExpressionError → ExpressionError
  | .compile e => .compile e.unplaced
  | .evaluation e => .evaluation e

/-! ## The stack is taken apart in the same way -/

namespace Pending

theorem popTighter_unplaced (op : Operator) (stack : List Pending) :
    popTighter op (stack.map unplaced) =
      ((popTighter op stack).1, (popTighter op stack).2.map unplaced) := by
  induction stack with
  | nil => rfl
  | cons pending rest ih =>
      cases pending with
      | paren position => rfl
      | operator top =>
          rw [List.map_cons, unplaced, popTighter, popTighter]
          split
          · rw [ih]
          · rfl

theorem popParen?_unplaced (stack : List Pending) :
    popParen? (stack.map unplaced) =
      (popParen? stack).map fun (ops, below) => (ops, below.map unplaced) := by
  induction stack with
  | nil => rfl
  | cons pending rest ih =>
      cases pending with
      | paren position => rfl
      | operator top =>
          rw [List.map_cons, unplaced, popParen?, popParen?, ih]
          cases popParen? rest <;> rfl

theorem popAll_unplaced (stack : List Pending) :
    popAll (stack.map unplaced) = (popAll stack).mapError CompileError.unplaced := by
  induction stack with
  | nil => rfl
  | cons pending rest ih =>
      cases pending with
      | paren position => rfl
      | operator top =>
          rw [List.map_cons, unplaced, popAll, popAll, ih]
          cases popAll rest <;> rfl

end Pending

/-! ## Compilation reads words -/

theorem Scope.classify_ofWord (scope : Scope) (lexeme : Lexeme) :
    scope.classify (.ofWord lexeme.text) =
      (scope.classify lexeme).mapError CompileError.unplaced := by
  rw [classify, classify, Lexeme.ofWord]
  cases scope.tokenOf lexeme.text <;> rfl

namespace Formula

theorem arrange_unplaced (scope : Scope) (lexemes : List Lexeme) (stack : List Pending) :
    arrange scope ((lexemes.map Lexeme.text).map .ofWord) (stack.map Pending.unplaced) =
      (arrange scope lexemes stack).mapError CompileError.unplaced := by
  induction lexemes generalizing stack with
  | nil => exact Pending.popAll_unplaced stack
  | cons lexeme rest ih =>
      rw [List.map_cons, List.map_cons, arrange, arrange, scope.classify_ofWord]
      cases scope.classify lexeme with
      | error e => rfl
      | ok token =>
          cases token with
          | operand o =>
              show (arrange scope _ _).map _ = ((arrange scope _ _).map _).mapError _
              rw [ih, mapError_map]
          | operator op =>
              show (arrange scope _ (_ :: (Pending.popTighter op (stack.map _)).2)).map _ =
                ((arrange scope _ _).map _).mapError _
              rw [mapError_map, ← ih, Pending.popTighter_unplaced]
              rfl
          | opening => exact ih (.paren lexeme.position :: stack)
          | closing =>
              simp only [Except.mapError, Pending.popParen?_unplaced]
              cases Pending.popParen? stack with
              | none => rfl
              | some popped =>
                  obtain ⟨ops, below⟩ := popped
                  show (arrange scope _ (below.map _)).map _ =
                    ((arrange scope _ below).map _).mapError _
                  rw [ih, mapError_map]

/-- The nodes of words that make up a text. -/
def nodesOf (scope : Scope) : List String → Except CompileError (List Node)
  | [] => .error ⟨.emptyExpression, 0⟩
  | words => arrange scope (words.map .ofWord) []

theorem nodesOf_eq_arrange (scope : Scope) {words : List String} (hwords : words ≠ []) :
    nodesOf scope words = arrange scope (words.map .ofWord) [] := by
  cases words with
  | nil => exact absurd rfl hwords
  | cons word rest => rfl

/-- A text compiles to the nodes of its words. -/
theorem compile_unplaced (scope : Scope) (source : String) :
    (compile scope source).mapError CompileError.unplaced =
      (nodesOf scope (Lexeme.words source)).map (⟨source, ·⟩) := by
  rw [compile, Lexeme.words]
  cases hlexemes : Lexeme.ofText source with
  | nil => rfl
  | cons lexeme rest =>
      show ((arrange scope (lexeme :: rest) []).map _).mapError _ =
        (arrange scope (((lexeme :: rest).map Lexeme.text).map .ofWord) ([].map Pending.unplaced)).map _
      rw [arrange_unplaced, mapError_map]

/-- The words of a text that compiles can be arranged at any place. -/
theorem arrange_words_of_compile {scope : Scope} {source : String} {formula : Formula}
    (hcompile : compile scope source = .ok formula) :
    arrange scope ((Lexeme.words source).map .ofWord) [] = .ok formula.nodes := by
  have hwords := compile_unplaced scope source
  rw [hcompile] at hwords
  obtain ⟨nodes, hnodes, rfl⟩ := map_eq_ok hwords.symm
  cases hlist : Lexeme.words source with
  | nil =>
      rw [hlist] at hnodes
      cases hnodes
  | cons word rest =>
      rw [hlist, nodesOf_eq_arrange scope (List.cons_ne_nil word rest)] at hnodes
      exact hnodes

end Formula

namespace Session

/-- What words evaluate to without a memory. -/
def meaningOf (session : Session) (words : List String) : Except ExpressionError Series := do
  let nodes ← (Formula.nodesOf session.scope words).mapError .compile
  (session.env.meaning session.bindings.formulas ⟨"", nodes⟩).mapError .evaluation

/-- A text means what its words mean. -/
theorem meaning_unplaced (session : Session) (source : String) :
    (session.meaning source).mapError ExpressionError.unplaced =
      session.meaningOf (Lexeme.words source) := by
  have hcompile := Formula.compile_unplaced session.scope source
  rw [meaning, meaningOf, compile]
  generalize Formula.nodesOf session.scope (Lexeme.words source) = nodes at hcompile ⊢
  cases hformula : Formula.compile session.scope source with
  | error e =>
      rw [hformula] at hcompile
      cases nodes with
      | error e' =>
          obtain rfl : e.unplaced = e' := Except.error.inj hcompile
          rfl
      | ok nodes => cases hcompile
  | ok formula =>
      rw [hformula] at hcompile
      cases nodes with
      | error e' => cases hcompile
      | ok nodes =>
          obtain rfl : formula = ⟨source, nodes⟩ := Except.ok.inj hcompile
          -- the meaning of a formula does not look at the text that it was compiled from
          show ((session.env.meaning _ ⟨source, nodes⟩).mapError _).mapError _ =
            (session.env.meaning _ ⟨source, nodes⟩).mapError _
          cases session.env.meaning session.bindings.formulas ⟨source, nodes⟩ <;> rfl

end Session

end Screener
