import Screener.Proofs.Formula.Faults
import Screener.Proofs.Formula.Substitution

/-!
# Operators that bind equally tightly

Where an operator stands in a formula, another one may stand that binds as tightly.  It waits for the
same operators and gives way to the same ones, so the formula compiles as before or fails at the same
place for the same reason (`Formula.arrange_interchange`): only the node of the operator differs.

A text in which an operator joins two texts in parentheses has the same lexemes before and after the
operator, whichever it is, provided that the symbols are equally long (`Lexeme.ofText_joining`).
-/

namespace Screener

open Text

/-- Whether two results both succeed, or both fail for one reason. -/
abbrev FailAlike {ε α β : Type} (x : Except ε α) (y : Except ε β) : Prop :=
  Agree (fun _ _ => True) x y

theorem FailAlike.map {ε α β γ δ : Type} {x : Except ε α} {y : Except ε β} {f : α → γ} {g : β → δ}
    (h : FailAlike x y) : FailAlike (x.map f) (y.map g) :=
  Agree.map h fun _ _ _ => trivial

/-! ## The stack does not tell them apart -/

namespace Pending

/-- Whether the two may wait in each other's place. -/
inductive Alike : Pending → Pending → Prop
  | operator {op op' : Operator} (hprecedence : op.precedence = op'.precedence) :
      Alike (.operator op) (.operator op')
  | paren (position : Nat) : Alike (.paren position) (.paren position)

theorem Alike.refl (pending : Pending) : Alike pending pending := by
  cases pending with
  | operator op => exact .operator rfl
  | paren position => exact .paren position

theorem alike_refl (stack : List Pending) : List.Forall₂ Alike stack stack :=
  List.forall₂_same.mpr fun pending _ => .refl pending

variable {stack stack' : List Pending}

theorem popTighter_alike (op : Operator) (halike : List.Forall₂ Alike stack stack') :
    List.Forall₂ Alike (popTighter op stack).2 (popTighter op stack').2 := by
  induction halike with
  | nil => exact .nil
  | cons htop hrest ih =>
      cases htop with
      | paren position => exact .cons (.paren position) hrest
      | operator hprecedence =>
          rw [popTighter, popTighter, hprecedence]
          split
          · exact ih
          · exact .cons (.operator hprecedence) hrest

theorem popParen?_alike (halike : List.Forall₂ Alike stack stack') :
    (popParen? stack = none ∧ popParen? stack' = none) ∨
      ∃ ops ops' below below', popParen? stack = some (ops, below) ∧
        popParen? stack' = some (ops', below') ∧ List.Forall₂ Alike below below' := by
  induction halike with
  | nil => exact .inl ⟨rfl, rfl⟩
  | @cons _ _ rest rest' htop hrest ih =>
      cases htop with
      | paren position => exact .inr ⟨[], [], rest, rest', rfl, rfl, hrest⟩
      | @operator op op' _ =>
          rcases ih with ⟨hnone, hnone'⟩ | ⟨ops, ops', below, below', hpop, hpop', hbelow⟩
          · exact .inl ⟨by rw [popParen?, hnone]; rfl, by rw [popParen?, hnone']; rfl⟩
          · exact .inr ⟨op :: ops, op' :: ops', below, below', by rw [popParen?, hpop]; rfl,
              by rw [popParen?, hpop']; rfl, hbelow⟩

theorem popAll_alike (halike : List.Forall₂ Alike stack stack') :
    FailAlike (popAll stack) (popAll stack') := by
  induction halike with
  | nil => exact .ok trivial
  | cons htop _ ih =>
      cases htop with
      | paren position => exact .error _
      | operator _ => exact ih.map

theorem popTighter_congr {op op' : Operator} (hprecedence : op.precedence = op'.precedence)
    (stack : List Pending) : popTighter op stack = popTighter op' stack := by
  induction stack with
  | nil => rfl
  | cons pending rest ih =>
      cases pending with
      | paren position => rfl
      | operator top => rw [popTighter, popTighter, hprecedence, ih]

end Pending

namespace Formula

variable (scope : Scope)

/-- What waits may be exchanged before any lexemes. -/
theorem arrange_alike (lexemes : List Lexeme) {stack stack' : List Pending}
    (halike : List.Forall₂ Pending.Alike stack stack') :
    FailAlike (arrange scope lexemes stack) (arrange scope lexemes stack') := by
  induction lexemes generalizing stack stack' with
  | nil => exact Pending.popAll_alike halike
  | cons lexeme rest ih =>
      rw [arrange, arrange]
      cases scope.classify lexeme with
      | error e => exact .error e
      | ok token =>
          cases token with
          | operand o => exact (ih halike).map
          | operator op =>
              exact (ih (.cons (.refl _) (Pending.popTighter_alike op halike))).map
          | opening => exact ih (.cons (.paren lexeme.position) halike)
          | closing =>
              rcases Pending.popParen?_alike halike with
                ⟨hnone, hnone'⟩ | ⟨ops, ops', below, below', hpop, hpop', hbelow⟩
              · simp only [hnone, hnone']
                exact .error _
              · simp only [hpop, hpop']
                exact (ih hbelow).map

/-- An operator may be exchanged for one that binds as tightly. -/
theorem arrange_interchange {op op' : Operator} (hprecedence : op.precedence = op'.precedence)
    (position : Nat) (before after : List Lexeme) (stack : List Pending) :
    FailAlike (arrange scope (before ++ ⟨op.symbol, position⟩ :: after) stack)
      (arrange scope (before ++ ⟨op'.symbol, position⟩ :: after) stack) := by
  induction before generalizing stack with
  | nil =>
      have htoken : ∀ other : Operator, scope.tokenOf (Lexeme.mk other.symbol position).text =
          .ok (.operator other) := scope.tokenOf_symbol
      rw [List.nil_append, List.nil_append, arrange_operator (htoken op) rfl,
        arrange_operator (htoken op') rfl, Pending.popTighter_congr hprecedence stack]
      exact (arrange_alike scope after (.cons (.operator hprecedence) (Pending.alike_refl _))).map
  | cons lexeme rest ih =>
      rw [List.cons_append, List.cons_append, arrange, arrange]
      cases scope.classify lexeme with
      | error e => exact .error e
      | ok token =>
          cases token with
          | operand o => exact (ih stack).map
          | operator _ => exact (ih _).map
          | opening => exact ih _
          | closing =>
              cases Pending.popParen? stack with
              | none => exact .error _
              | some popped => exact (ih popped.2).map

end Formula

/-! ## The text around an operator -/

/-- Two texts in parentheses with an operator between them. -/
def Operator.joining (op : Operator) (left right : String) : String :=
  "( " ++ left ++ " ) " ++ op.symbol ++ " ( " ++ right ++ " )"

theorem Operator.toList_joining (op : Operator) (left right : String) :
    (op.joining left right).toList =
      ("( " ++ left ++ " )").toList ++
        ' ' :: (op.symbol.toList ++ ' ' :: ("( " ++ right ++ " )").toList) := by
  simp [joining, String.toList_append]

theorem Operator.solid_symbol (op : Operator) :
    op.symbol.toList ≠ [] ∧ ∀ c ∈ op.symbol.toList, isBlank c = false := by
  cases op <;> exact ⟨by decide, Scope.solid_of_all (by decide)⟩

namespace Lexeme

/-- The scanner may stop wherever a blank character follows. -/
theorem scan_append {first second : List Char} {words : List String} (hfirst : Spaced first words)
    (hend : ∀ c ∈ second.head?, isBlank c = true) (position : Nat) :
    scan position (first ++ second) =
      scan position first ++ scan (position + byteLength first) second := by
  induction hfirst generalizing position with
  | nil => rw [scan_nil, List.nil_append, List.nil_append, byteLength_nil, Nat.add_zero]
  | blank hblank _ ih =>
      rw [List.cons_append, scan_blank hblank, scan_blank hblank, ih, byteLength_cons, Nat.add_assoc]
  | @word text _ word hword hsolid hafter _ ih =>
      have hafter' : ∀ c ∈ (text ++ second).head?, isBlank c = true := by
        intro c hc
        cases text with
        | nil => exact hend c hc
        | cons d text => exact hafter c hc
      rw [List.append_assoc, scan_word hword hsolid hafter', scan_word hword hsolid hafter, ih,
        byteLength_append, Nat.add_assoc, List.cons_append]

/-- The lexemes before the operator and after it, and where it stands. -/
theorem ofText_joining (op : Operator) (left right : String) :
    let start := ("( " ++ left ++ " )").toList
    let position := byteLength start + 1
    ofText (op.joining left right) = scan 0 start ++
      ⟨op.symbol, position⟩ :: scan (position + byteLength op.symbol.toList)
        (' ' :: ("( " ++ right ++ " )").toList) := by
  intro start position
  obtain ⟨hsymbol, hsolid⟩ := op.solid_symbol
  have hblank : ∀ (cs : List Char), ∀ c ∈ (' ' :: cs).head?, isBlank c = true := by
    rintro cs c ⟨⟩
    rfl
  have hposition : 0 + byteLength start + ' '.utf8Size = position := by
    rw [Nat.zero_add]
    rfl
  rw [ofText, op.toList_joining, scan_append (.group left) (hblank _), scan_blank rfl, hposition,
    scan_word hsymbol hsolid (hblank _), String.ofList_toList]

theorem words_joining (op : Operator) (left right : String) :
    words (op.joining left right) =
      "(" :: words left ++ ")" :: op.symbol :: ("(" :: words right ++ [")"]) := by
  have hwords : words (op.joining left right) = _ :=
    congrArg (List.map Lexeme.text) (ofText_joining op left right)
  rw [hwords, List.map_append, List.map_cons, map_text_scan (.group left),
    map_text_scan (.blank rfl (.group right))]
  simp

end Lexeme

namespace Formula

variable {scope : Scope}

/-- Texts that differ in an operator compile to something together, or fail together for one reason
at one place. -/
theorem compile_interchange {op op' : Operator} (hprecedence : op.precedence = op'.precedence)
    (hsymbol : byteLength op.symbol.toList = byteLength op'.symbol.toList) (left right : String) :
    FailAlike (compile scope (op.joining left right))
      (compile scope (op'.joining left right)) := by
  have hcompile : ∀ other : Operator, compile scope (other.joining left right) =
      (arrange scope (Lexeme.ofText (other.joining left right)) []).map
        (⟨other.joining left right, ·⟩) := by
    intro other
    have hlexemes : Lexeme.ofText (other.joining left right) ≠ [] := by
      rw [Lexeme.ofText_joining]
      simp
    rw [compile_of_lexemes hlexemes]
  rw [hcompile, hcompile, Lexeme.ofText_joining, Lexeme.ofText_joining, hsymbol]
  exact (arrange_interchange scope hprecedence _ _ _ []).map

/-- Words that mean something can be arranged if their parentheses are balanced. -/
theorem exists_arrange_words {text : String} (hbalanced : Lexeme.Balanced (Lexeme.ofText text))
    (htokens : ∀ lexeme ∈ Lexeme.ofText text, ∃ token, scope.tokenOf lexeme.text = .ok token) :
    ∃ nodes, arrange scope ((Lexeme.words text).map .ofWord) [] = .ok nodes := by
  have hreadable : Readable scope (Lexeme.ofText text) := by
    intro before lexeme after e hsplit hstops
    cases hstops with
    | meaningless hfault =>
        obtain ⟨token, htoken⟩ := htokens lexeme (by simp [hsplit])
        rw [htoken] at hfault
        cases hfault
    | unopened hclosing hbefore =>
        have hpart : before ++ [lexeme] <+: Lexeme.ofText text := ⟨after, by simp [hsplit]⟩
        have hle := hbalanced.closesNone _ hpart
        simp only [Lexeme.openings_append, Lexeme.closings_append, Lexeme.openings_cons,
          Lexeme.closings_cons, Lexeme.openings_nil, Lexeme.closings_nil, hclosing] at hle
        simp at hle
        omega
  rcases arrange_of_readable hreadable with
    ⟨-, nodes, harrange⟩ | ⟨before, opening, after, hsplit, hopening, hafter, -⟩
  · have hwords := arrange_unplaced scope (Lexeme.ofText text) []
    rw [harrange] at hwords
    exact ⟨nodes, hwords⟩
  · rw [hsplit] at hbalanced
    exact absurd hafter.closesNone (hbalanced.not_closesNone hopening)

/-- The nodes of the two texts come out one after the other, and then the operator. -/
theorem compile_joining (op : Operator) {left right : String} {first second : List Node}
    (hleft : arrange scope ((Lexeme.words left).map .ofWord) [] = .ok first)
    (hright : arrange scope ((Lexeme.words right).map .ofWord) [] = .ok second) :
    compile scope (op.joining left right) =
      .ok ⟨op.joining left right, first ++ (second ++ [.operator op])⟩ := by
  have htoken : scope.tokenOf (Lexeme.ofWord op.symbol).text = .ok (.operator op) :=
    scope.tokenOf_symbol op
  have hoperator : ∀ rest stack, arrange scope (.ofWord op.symbol :: rest) stack =
      (arrange scope rest (.operator op :: (Pending.popTighter op stack).2)).map
        ((Pending.popTighter op stack).1.map .operator ++ ·) :=
    fun rest stack => arrange_operator htoken rfl rest
  have hgroup : ∀ (rest : List Lexeme) {words : List String} {nodes : List Node} stack,
      arrange scope (words.map .ofWord) [] = .ok nodes →
      arrange scope (.ofWord "(" :: words.map .ofWord ++ .ofWord ")" :: rest) stack =
        (arrange scope rest stack).map (nodes ++ ·) :=
    fun rest _ _ stack halone => arrange_group halone rfl rfl rest stack
  have hwords : (Lexeme.words (op.joining left right)).map Lexeme.ofWord =
      .ofWord "(" :: (Lexeme.words left).map .ofWord ++ .ofWord ")" :: .ofWord op.symbol ::
        (.ofWord "(" :: (Lexeme.words right).map .ofWord ++ [.ofWord ")"]) := by
    rw [Lexeme.words_joining]
    simp
  have hnodes : nodesOf scope (Lexeme.words (op.joining left right)) =
      .ok (first ++ (second ++ [.operator op])) := by
    rw [nodesOf_eq_arrange scope (by rw [Lexeme.words_joining]; simp), hwords, hgroup _ [] hleft,
      hoperator, hgroup [] _ hright]
    rfl
  have hcompile := compile_unplaced scope (op.joining left right)
  rw [hnodes] at hcompile
  exact mapError_eq_ok hcompile

end Formula

end Screener
