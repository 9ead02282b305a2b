import Mathlib.Data.List.Chain
import Screener.Formula.Session
import Screener.Proofs.Formula.Arrangement

/-!
# The grammar of formulas

A formula is an operand, two formulas with an operator between them, or a formula between
parentheses.  Compilation does not follow this grammar: it matches parentheses and counts values.
This file settles which token sequences pass all the same.

## Strategy

Two things are known of a sequence that compiles and passes the check of its operators: its
parentheses match (`Matched`), and it has one operand more than operators (`surplus` is one).  That
is not enough: `close open +` is accepted.  What is missing is that two values never stand next to
each other (`Separated`).

With it the count decides.  Read a separated sequence from the left and note whether a value has
just ended.  An operand can only come when none has, so every step either alternates values and
operators as the grammar does, or loses one of the surplus for good (`surplus_le_of_separated`).  A
surplus of one therefore leaves no wrong step (`Alternating`), and a sequence that alternates and
whose parentheses match is grammatical: `grammatical_of_alternating` keeps, for each open
parenthesis, the part of a formula that stands before it.
-/

namespace Screener

/-- The formulas as sequences of tokens. -/
inductive Grammatical : List Token → Prop
  | operand (operand : Operand) : Grammatical [.operand operand]
  | binary (operator : Operator) {left right : List Token} (hleft : Grammatical left)
      (hright : Grammatical right) : Grammatical (left ++ .operator operator :: right)
  | group {inner : List Token} (hinner : Grammatical inner) :
      Grammatical (.opening :: inner ++ [.closing])

namespace Token

/-- Whether a value ends with the token. -/
def endsValue : Token → Bool
  | .operand _ | .closing => true
  | .operator _ | .opening => false

/-- Whether a value begins with the token. -/
def beginsValue : Token → Bool
  | .operand _ | .opening => true
  | .operator _ | .closing => false

/-- How many values more there are after the token than before it. -/
def weight : Token → Int
  | .operand _ => 1
  | .operator _ => -1
  | .opening | .closing => 0

end Token

/-- Whether no value ends where the next one begins, without an operator between the two. -/
def Separated (tokens : List Token) : Prop :=
  tokens.IsChain fun first second => ¬ (first.endsValue = true ∧ second.beginsValue = true)

/-- The number of operands less the number of operators. -/
def surplus : List Token → Int
  | [] => 0
  | token :: rest => token.weight + surplus rest

/-- Whether the closing parentheses close `depth` parentheses that are open and those that are
opened on the way. -/
def Matched : Nat → List Token → Prop
  | depth, [] => depth = 0
  | depth, .opening :: rest => Matched (depth + 1) rest
  | 0, .closing :: _ => False
  | depth + 1, .closing :: rest => Matched depth rest
  | depth, _ :: rest => Matched depth rest

/-- Whether values and operators alternate, with `depth` parentheses open and, if `ended`, with a
value just before the first token. -/
def Alternating : Bool → Nat → List Token → Prop
  | ended, depth, [] => ended = true ∧ depth = 0
  | false, depth, .operand _ :: rest => Alternating true depth rest
  | false, depth, .opening :: rest => Alternating false (depth + 1) rest
  | true, depth, .operator _ :: rest => Alternating false depth rest
  | true, depth + 1, .closing :: rest => Alternating true depth rest
  | _, _, _ :: _ => False

/-! ## Grammatical sequences are separated -/

namespace Grammatical

theorem separated {tokens : List Token} (h : Grammatical tokens) : Separated tokens := by
  induction h with
  | operand o => exact List.isChain_singleton _
  | binary op hleft hright ihLeft ihRight =>
      refine List.isChain_append.mpr ⟨ihLeft, List.isChain_cons.mpr ⟨?_, ihRight⟩, ?_⟩
      · intro token _ hadjacent
        cases hadjacent.1
      · intro first _ second hsecond hadjacent
        obtain rfl : .operator op = second := Option.some.inj hsecond
        cases hadjacent.2
  | @group inner hinner ih =>
      rw [List.cons_append]
      refine List.isChain_cons.mpr ⟨?_, List.isChain_append.mpr ⟨ih, List.isChain_singleton _, ?_⟩⟩
      · intro token _ hadjacent
        cases hadjacent.1
      · intro first _ second hsecond hadjacent
        obtain rfl : .closing = second := Option.some.inj hsecond
        cases hadjacent.2

end Grammatical

/-! ## A separated sequence with a surplus of one alternates -/

/-- A separated sequence has at most the surplus that one value more gives, and it alternates if it
has so much. -/
theorem surplus_le_of_separated {tokens : List Token} (ended : Bool) {depth : Nat}
    (hseparated : Separated tokens)
    (hfirst : ended = true → ∀ token ∈ tokens.head?, token.beginsValue = false)
    (hmatched : Matched depth tokens) :
    surplus tokens + ended.toNat ≤ 1 ∧
      (surplus tokens + ended.toNat = 1 → Alternating ended depth tokens) := by
  induction tokens generalizing ended depth with
  | nil =>
      rw [surplus, Matched] at *
      cases ended with
      | false => simp
      | true => exact ⟨by simp, fun _ => ⟨rfl, hmatched⟩⟩
  | cons token rest ih =>
      obtain ⟨hnext, hrest⟩ := List.isChain_cons.mp hseparated
      have hafter : token.endsValue = true → ∀ next ∈ rest.head?, next.beginsValue = false := by
        intro hends next hmem
        have hnot := hnext next hmem
        cases hbegins : next.beginsValue with
        | false => rfl
        | true => exact absurd ⟨hends, hbegins⟩ hnot
      cases token with
      | operand o =>
          cases ended with
          | true => cases hfirst rfl _ rfl
          | false =>
              obtain ⟨hle, halternating⟩ := ih true hrest (fun _ => hafter rfl) hmatched
              simp only [surplus, Token.weight, Bool.toNat_true, Bool.toNat_false] at *
              exact ⟨by omega, fun h => halternating (by omega)⟩
      | opening =>
          cases ended with
          | true => cases hfirst rfl _ rfl
          | false =>
              obtain ⟨hle, halternating⟩ := ih false hrest nofun hmatched
              simp only [surplus, Token.weight, Bool.toNat_false] at *
              exact ⟨by omega, fun h => halternating (by omega)⟩
      | operator op =>
          -- an operator without a value before it loses one of the surplus for good
          obtain ⟨hle, halternating⟩ := ih false hrest nofun hmatched
          simp only [surplus, Token.weight, Bool.toNat_false] at *
          cases ended with
          | false => exact ⟨by simp; omega, fun h => by simp at h; omega⟩
          | true => exact ⟨by simp; omega, fun h => halternating (by simp at h; omega)⟩
      | closing =>
          cases depth with
          | zero => cases hmatched
          | succ depth =>
              obtain ⟨hle, halternating⟩ := ih true hrest (fun _ => hafter rfl) hmatched
              simp only [surplus, Token.weight, Bool.toNat_true] at *
              cases ended with
              | false => exact ⟨by simp; omega, fun h => by simp at h; omega⟩
              | true => exact ⟨by simp; omega, fun h => halternating (by simp at h; omega)⟩

/-! ## An alternating sequence is grammatical -/

/-- What may stand before a value: nothing, or a formula and an operator. -/
def Opens (before : List Token) : Prop :=
  before = [] ∨ ∃ formula op, Grammatical formula ∧ before = formula ++ [.operator op]

theorem Opens.append {before value : List Token} (hbefore : Opens before)
    (hvalue : Grammatical value) : Grammatical (before ++ value) := by
  obtain rfl | ⟨formula, op, hformula, rfl⟩ := hbefore
  · exact hvalue
  · rw [List.append_assoc]
    exact .binary op hformula hvalue

/-- The tokens from the innermost open parenthesis on, put after what stands before it and before
the parentheses around it, from the innermost to the outermost. -/
def enclose : List (List Token) → List Token → List Token
  | [], inner => inner
  | before :: outer, inner => enclose outer (before ++ .opening :: inner)

theorem grammatical_of_alternating {tokens : List Token} (ended : Bool)
    (outer : List (List Token)) (current : List Token) (houter : ∀ before ∈ outer, Opens before)
    (hended : ended = true → Grammatical current) (hopen : ended = false → Opens current)
    (halternating : Alternating ended outer.length tokens) :
    Grammatical (enclose outer (current ++ tokens)) := by
  induction tokens generalizing ended outer current with
  | nil =>
      obtain ⟨hvalue, hdepth⟩ := halternating
      obtain rfl := List.length_eq_zero_iff.mp hdepth
      rw [List.append_nil]
      exact hended hvalue
  | cons token rest ih =>
      cases token with
      | operand o =>
          cases ended with
          | true => cases halternating
          | false =>
              have hvalue : Grammatical (current ++ [.operand o]) := (hopen rfl).append (.operand o)
              rw [List.append_cons]
              exact ih true outer _ houter (fun _ => hvalue) nofun halternating
      | opening =>
          cases ended with
          | true => cases halternating
          | false =>
              have houter' : ∀ before ∈ current :: outer, Opens before := by
                intro before hbefore
                rcases List.mem_cons.mp hbefore with rfl | hbefore
                · exact hopen rfl
                · exact houter before hbefore
              exact ih false (current :: outer) [] houter' nofun (fun _ => Or.inl rfl) halternating
      | operator op =>
          cases ended with
          | false => cases halternating
          | true =>
              have hbefore : Opens (current ++ [.operator op]) :=
                Or.inr ⟨current, op, hended rfl, rfl⟩
              rw [List.append_cons]
              exact ih false outer _ houter nofun (fun _ => hbefore) halternating
      | closing =>
          cases ended with
          | false => cases halternating
          | true =>
              cases outer with
              | nil => cases halternating
              | cons before outer =>
                  have hvalue : Grammatical (before ++ (.opening :: current ++ [.closing])) :=
                    (houter before List.mem_cons_self).append (.group (hended rfl))
                  have houter' := fun other hother => houter other (List.mem_cons_of_mem _ hother)
                  have h := ih true outer _ houter' (fun _ => hvalue) nofun halternating
                  rw [enclose]
                  simpa using h

/-- Where parentheses match and the count is right, separated values are all that is missing. -/
theorem grammatical_iff_separated {tokens : List Token} (hmatched : Matched 0 tokens)
    (hsurplus : surplus tokens = 1) : Grammatical tokens ↔ Separated tokens := by
  refine ⟨Grammatical.separated, fun hseparated => ?_⟩
  have halternating := (surplus_le_of_separated false hseparated nofun hmatched).2 (by simpa)
  exact grammatical_of_alternating false [] [] nofun nofun (fun _ => Or.inl rfl) halternating

/-! ## What compilation and the check of operators tell -/

/-- A node as a token. -/
def Node.token : Node → Token
  | .operand o => .operand o
  | .operator op => .operator op

namespace Pending

/-- What waits on the stack as a token. -/
def token : Pending → Token
  | .operator op => .operator op
  | .paren _ => .opening

/-- The number of parentheses that wait on the stack. -/
def parens : List Pending → Nat
  | [] => 0
  | .operator _ :: rest => parens rest
  | .paren _ :: rest => parens rest + 1

theorem parens_append (ops : List Operator) (stack : List Pending) :
    parens (ops.map .operator ++ stack) = parens stack := by
  induction ops with
  | nil => rfl
  | cons op rest ih => exact ih

end Pending

theorem surplus_append (first second : List Token) :
    surplus (first ++ second) = surplus first + surplus second := by
  induction first with
  | nil => simp [surplus]
  | cons token rest ih => rw [List.cons_append, surplus, surplus, ih, Int.add_assoc]

/-- Operators count the same on the stack and among the nodes. -/
theorem surplus_operators (ops : List Operator) :
    surplus ((ops.map Pending.operator).map Pending.token) =
      surplus ((ops.map Node.operator).map Node.token) := by
  simp only [List.map_map]
  rfl

namespace Formula

theorem mapM_classify_cons {scope : Scope} {lexeme : Lexeme} {rest : List Lexeme} {token : Token}
    {tokens : List Token} (htoken : scope.tokenOf lexeme.text = .ok token)
    (htokens : rest.mapM scope.classify = .ok tokens) :
    (lexeme :: rest).mapM scope.classify = .ok (token :: tokens) := by
  rw [List.mapM_cons, classify_of_tokenOf htoken, htokens]
  rfl

/-- A sequence of lexemes that can be arranged has a meaning for each lexeme, closes the parentheses
that wait, and no value gets lost or is counted twice. -/
theorem Arranges.exists_tokens {scope : Scope} {lexemes : List Lexeme} {stack : List Pending}
    {nodes : List Node} (harranges : Arranges scope lexemes stack nodes) :
    ∃ tokens, lexemes.mapM scope.classify = .ok tokens ∧ Matched (Pending.parens stack) tokens ∧
      surplus (nodes.map Node.token) = surplus tokens + surplus (stack.map Pending.token) := by
  induction harranges with
  | done ops =>
      have hparens := Pending.parens_append ops []
      rw [List.append_nil] at hparens
      exact ⟨[], rfl, hparens, by rw [surplus_operators, surplus, Int.zero_add]⟩
  | operand htoken _ ih =>
      obtain ⟨tokens, htokens, hmatched, hcount⟩ := ih
      refine ⟨_, mapM_classify_cons htoken htokens, hmatched, ?_⟩
      rw [List.map_cons, surplus, surplus, hcount, Int.add_assoc]
      rfl
  | @operator _ op _ stack _ _ _ htoken hpop _ ih =>
      obtain ⟨tokens, htokens, hmatched, hcount⟩ := ih
      have hstack := Pending.popTighter_append_eq op stack
      rw [hpop] at hstack
      refine ⟨_, mapM_classify_cons htoken htokens, ?_, ?_⟩
      · rw [← hstack, Pending.parens_append]
        exact hmatched
      · rw [← hstack, List.map_append, List.map_append, surplus_append, surplus_append,
          hcount, surplus_operators, surplus, List.map_cons, surplus]
        simp only [Pending.token]
        omega
  | opening htoken _ ih =>
      obtain ⟨tokens, htokens, hmatched, hcount⟩ := ih
      refine ⟨_, mapM_classify_cons htoken htokens, hmatched, ?_⟩
      rw [hcount, List.map_cons, surplus, surplus]
      simp [Pending.token, Token.weight]
  | closing htoken hpop _ ih =>
      obtain ⟨tokens, htokens, hmatched, hcount⟩ := ih
      obtain ⟨position, rfl⟩ := Pending.popParen?_eq_some hpop
      refine ⟨_, mapM_classify_cons htoken htokens, ?_, ?_⟩
      · rw [Pending.parens_append]
        exact hmatched
      · rw [List.map_append, List.map_append, surplus_append, surplus_append, hcount,
          surplus_operators, surplus, List.map_cons, surplus]
        simp only [Pending.token, Token.weight]
        omega

/-- Nodes that reduce to one value have one operand more than operators. -/
theorem surplus_of_arityFrom {depth : Nat} {nodes : List Node}
    (h : arityFrom depth nodes = .ok ()) : depth + surplus (nodes.map Node.token) = 1 := by
  induction nodes generalizing depth with
  | nil =>
      rw [arityFrom] at h
      split at h
      · next hdepth => simp [hdepth, surplus]
      · cases h
  | cons node rest ih =>
      cases node with
      | operand o =>
          have hrest := ih h
          rw [List.map_cons, surplus]
          simp only [Node.token, Token.weight]
          omega
      | operator op =>
          rw [arityFrom] at h
          split at h
          · cases h
          · next hdepth =>
              have hrest := ih h
              rw [List.map_cons, surplus]
              simp only [Node.token, Token.weight]
              omega

end Formula

end Screener
