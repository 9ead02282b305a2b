import Screener.Formula.Session
import Screener.Proofs.Formula.Arrangement
import Screener.Proofs.Formula.Tree
import Screener.Proofs.Formula.Words

/-!
# Written formulas

A formula is written with its operators between their operands, and parentheses tell which parts
belong together where the strength of the operators does not.  `Written.Bracketed` says where they
are needed; further parentheses may stand around any part.

Compiling such a text gives the nodes of the tree that was written, so evaluating the text is
evaluating the tree.

## Strategy

While a written formula is read, some of its operators have found their place and the others wait on
the stack.  For a formula that has been read to its end, `settled` lists the nodes that are out and
`waiting` the operators that are not, topmost first: these are the operators along its right edge.
`settled` followed by `waiting` is the postorder (`settled_append_waiting`).  `arrange_written` says
that reading a written formula puts out `settled` and leaves `waiting` on top of the stack.  It
needs that the operator that waits below binds less tightly than every operator of the formula that
is not inside parentheses, and it keeps this for the two parts of an operator because they are
bracketed.
-/

namespace Screener

/-- A formula as it is written. -/
inductive Written where
  /-- An operand by its word. -/
  | operand (word : String) (operand : Operand)
  | binary (operator : Operator) (left right : Written)
  /-- A formula between parentheses. -/
  | group (inner : Written)

namespace Written

/-- The words of a written formula. -/
def words : Written → List String
  | operand word _ => [word]
  | binary op left right => left.words ++ op.symbol :: right.words
  | group inner => "(" :: inner.words ++ [")"]

/-- The tree of a written formula; parentheses leave no trace in it. -/
def tree : Written → FormulaTree
  | operand _ o => .operand o
  | binary op left right => .binary op left.tree right.tree
  | group inner => inner.tree

/-- Whether the word of every operand stands for that operand. -/
def Reads (scope : Scope) : Written → Prop
  | operand word o => scope.tokenOf word = .ok (.operand o)
  | binary _ left right => left.Reads scope ∧ right.Reads scope
  | group inner => inner.Reads scope

/-- The operator that joins the two parts of a formula, if no parentheses stand around them. -/
def joint? : Written → Option Operator
  | binary op _ _ => some op
  | _ => none

/-- Whether parentheses stand around every left part whose operator binds less tightly than the
operator it belongs to, and around every right part whose operator does not bind more tightly. -/
def Bracketed : Written → Prop
  | operand _ _ => True
  | binary op left right =>
    left.Bracketed ∧ right.Bracketed ∧
      (∀ inner ∈ left.joint?, op.precedence ≤ inner.precedence) ∧
      ∀ inner ∈ right.joint?, op.precedence < inner.precedence
  | group inner => inner.Bracketed

/-- The operators that are not inside parentheses. -/
def exposed : Written → List Operator
  | operand _ _ => []
  | binary op left right => left.exposed ++ op :: right.exposed
  | group _ => []

/-- The nodes that are out when the formula has been read. -/
def settled : Written → List Node
  | operand _ o => [.operand o]
  | binary _ left right => left.tree.postorder ++ right.settled
  | group inner => inner.tree.postorder

/-- The operators that wait when the formula has been read, the topmost first. -/
def waiting : Written → List Operator
  | operand _ _ => []
  | binary op _ right => right.waiting ++ [op]
  | group _ => []

theorem settled_append_waiting (written : Written) :
    written.settled ++ written.waiting.map .operator = written.tree.postorder := by
  induction written with
  | operand word o => rfl
  | binary op left right _ ihRight =>
      rw [settled, waiting, List.map_append, List.append_assoc, ← List.append_assoc right.settled,
        ihRight, tree, FormulaTree.postorder, List.append_assoc]
      rfl
  | group inner _ => simp [settled, waiting, tree]

theorem waiting_subset_exposed (written : Written) : written.waiting ⊆ written.exposed := by
  induction written with
  | operand word o => simp [waiting]
  | binary op left right _ ihRight =>
      intro inner hinner
      rw [waiting, List.mem_append, List.mem_singleton] at hinner
      rw [exposed, List.mem_append, List.mem_cons]
      rcases hinner with hright | rfl
      · exact Or.inr (Or.inr (ihRight hright))
      · exact Or.inr (Or.inl rfl)
  | group inner _ => simp [waiting]

/-- In a bracketed formula no exposed operator binds less tightly than the joint. -/
theorem le_precedence_of_mem_exposed {written : Written} (hbracketed : written.Bracketed)
    {bound : Int} (hjoint : ∀ op ∈ written.joint?, bound ≤ op.precedence) :
    ∀ op ∈ written.exposed, bound ≤ op.precedence := by
  induction written with
  | operand word o => simp [exposed]
  | binary op left right ihLeft ihRight =>
      obtain ⟨hleft, hright, hlooser, htighter⟩ := hbracketed
      have hop : bound ≤ op.precedence := hjoint op rfl
      intro inner hinner
      rw [exposed, List.mem_append, List.mem_cons] at hinner
      rcases hinner with hinner | rfl | hinner
      · exact ihLeft hleft (fun p hp => Int.le_trans hop (hlooser p hp)) inner hinner
      · exact hop
      · refine ihRight hright (fun p hp => ?_) inner hinner
        exact Int.le_trans hop (Int.le_of_lt (htighter p hp))
  | group inner _ => simp [exposed]

end Written

namespace Formula

variable {scope : Scope}

theorem compile_of_lexemes {source : String} (hlexemes : Lexeme.ofText source ≠ []) :
    compile scope source = (arrange scope (Lexeme.ofText source) []).map (⟨source, ·⟩) := by
  unfold compile
  split
  · exact absurd ‹_› hlexemes
  · rfl

/-! ## Reading a written formula -/

/-- Reading a written formula puts out its settled nodes and leaves its waiting operators on top of
the stack, whatever is read afterwards. -/
theorem arrange_written {written : Written} (hreads : written.Reads scope)
    (hbracketed : written.Bracketed) {lexemes : List Lexeme}
    (hwords : lexemes.map Lexeme.text = written.words) (rest : List Lexeme) (stack : List Pending)
    (hlooser : ∀ top ∈ Pending.top? stack, ∀ op ∈ written.exposed,
      top.precedence < op.precedence) :
    arrange scope (lexemes ++ rest) stack =
      (arrange scope rest (written.waiting.map .operator ++ stack)).map (written.settled ++ ·) := by
  induction written generalizing lexemes rest stack with
  | operand word o =>
      obtain ⟨lexeme, tail, rfl, htext, htail⟩ := List.map_eq_cons_iff.mp hwords
      obtain rfl := List.map_eq_nil_iff.mp htail
      have htoken : scope.tokenOf lexeme.text = .ok (.operand o) := by
        rw [htext]
        exact hreads
      exact arrange_operand htoken rest stack
  | binary op left right ihLeft ihRight =>
      obtain ⟨hleft, hright, hlower, hhigher⟩ := hbracketed
      obtain ⟨leftLexemes, tail, rfl, hleftWords, htail⟩ := List.map_eq_append_iff.mp hwords
      obtain ⟨lexeme, rightLexemes, rfl, htext, hrightWords⟩ := List.map_eq_cons_iff.mp htail
      have htoken : scope.tokenOf lexeme.text = .ok (.operator op) := by
        rw [htext]
        exact scope.tokenOf_symbol op
      have hop : ∀ top ∈ Pending.top? stack, top.precedence < op.precedence := by
        intro top htop
        exact hlooser top htop op (by simp [Written.exposed])
      -- the waiting operators of the left part give way to the operator, those below do not
      have hpop : Pending.popTighter op (left.waiting.map .operator ++ stack) =
          (left.waiting, stack) :=
        Pending.popTighter_append (fun inner hinner => Written.le_precedence_of_mem_exposed hleft
          hlower inner (left.waiting_subset_exposed hinner)) hop
      have hleftLooser : ∀ top ∈ Pending.top? stack, ∀ inner ∈ left.exposed,
          top.precedence < inner.precedence := by
        intro top htop inner hinner
        exact hlooser top htop inner (by simp [Written.exposed, hinner])
      have hrightLooser : ∀ top ∈ Pending.top? (.operator op :: stack), ∀ inner ∈ right.exposed,
          top.precedence < inner.precedence := by
        intro top htop inner hinner
        obtain rfl : op = top := Option.some.inj htop
        exact Written.le_precedence_of_mem_exposed hright hhigher inner hinner
      rw [List.append_assoc, List.cons_append, ihLeft hreads.1 hleft hleftWords _ _ hleftLooser,
        arrange_operator htoken hpop, ihRight hreads.2 hright hrightWords _ _ hrightLooser,
        map_append_map, map_append_map, Written.settled_append_waiting]
      simp [Written.settled, Written.waiting]
  | group inner ih =>
      obtain ⟨opening, tail, rfl, hopening, htail⟩ := List.map_eq_cons_iff.mp hwords
      obtain ⟨innerLexemes, last, rfl, hinnerWords, hlast⟩ := List.map_eq_append_iff.mp htail
      obtain ⟨closing, tail, rfl, hclosing, hnone⟩ := List.map_eq_cons_iff.mp hlast
      obtain rfl := List.map_eq_nil_iff.mp hnone
      have hopens : scope.tokenOf opening.text = .ok .opening := by
        rw [hopening]
        exact scope.tokenOf_opening
      have hcloses : scope.tokenOf closing.text = .ok .closing := by
        rw [hclosing]
        exact scope.tokenOf_closing
      have hinnerLooser : ∀ top ∈ Pending.top? (.paren opening.position :: stack),
          ∀ op ∈ inner.exposed, top.precedence < op.precedence := by
        intro top htop
        cases htop
      have hpop := Pending.popParen?_append inner.waiting opening.position stack
      rw [List.cons_append, arrange_opening hopens, List.append_assoc,
        ih hreads hbracketed hinnerWords _ _ hinnerLooser, List.singleton_append,
        arrange_closing hcloses hpop, map_append_map, Written.settled_append_waiting]
      rfl

end Formula

end Screener
