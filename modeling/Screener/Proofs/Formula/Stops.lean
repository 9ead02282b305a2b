import Screener.Proofs.Formula.Definitions
import Screener.Proofs.Formula.Grammar
import Screener.Proofs.Formula.Parentheses

/-!
# Reading lexemes from the left

Reading stops at a lexeme that means nothing and at a closing parenthesis that has none to close
(`StopsAt`).  When a part of the lexemes has been read without a stop (`Readable`), the
parentheses that wait on the stack are those that the part leaves open, and what has come out
stays in front of all that follows (`Formula.exists_arrange_append`).

This rests on two facts about words: a word is a parenthesis exactly if it is written so
(`Scope.tokenOf_eq_opening_iff`), and operators take no parentheses from the stack
(`Pending.positions_popTighter`).
-/

namespace Screener

/-! ## Words that are parentheses -/

namespace Scope

variable {scope : Scope} {text : String} {token : Token}

/-- A word that means no operand is read by a rule that looks at nothing else. -/
theorem ruleOf_of_tokenOf (htoken : scope.tokenOf text = .ok token)
    (hoperand : ∀ o, token ≠ .operand o) :
    (ruleOf text = .closing ∧ token = .closing) ∨ (ruleOf text = .opening ∧ token = .opening) ∨
      ∃ op, ruleOf text = .operator op ∧ token = .operator op := by
  rw [tokenOf_eq_read] at htoken
  generalize ruleOf text = rule at htoken ⊢
  cases rule with
  | literal value => exact absurd (Except.ok.inj htoken).symm (hoperand _)
  | column => exact absurd (Except.ok.inj htoken).symm (hoperand _)
  | closing => exact .inl ⟨rfl, (Except.ok.inj htoken).symm⟩
  | lag =>
      obtain ⟨_, _, _, -, -, rfl⟩ := exists_of_lag_eq_ok htoken
      exact absurd rfl (hoperand _)
  | call =>
      obtain ⟨_, -, rfl⟩ := exists_of_call_eq_ok htoken
      exact absurd rfl (hoperand _)
  | operator op => exact .inr (.inr ⟨op, rfl, (Except.ok.inj htoken).symm⟩)
  | opening => exact .inr (.inl ⟨rfl, (Except.ok.inj htoken).symm⟩)
  | name =>
      rw [Rule.read] at htoken
      split at htoken
      · exact absurd (Except.ok.inj htoken).symm (hoperand _)
      · cases htoken

/-- Each parenthesis has a rule for itself. -/
theorem text_of_ruleOf (text : String) :
    (ruleOf text = .opening → text = "(") ∧ (ruleOf text = .closing → text = ")") := by
  simp only [ruleOf]
  split
  · simp
  split
  · simp
  split
  · next hclosing => exact ⟨by simp, fun _ => String.toList_inj.mp hclosing⟩
  split
  · split <;> simp
  split
  · simp
  split
  · next hopening => exact ⟨fun _ => String.toList_inj.mp hopening, by simp⟩
  · simp

theorem tokenOf_eq_opening_iff : scope.tokenOf text = .ok .opening ↔ text = "(" := by
  constructor
  · intro htoken
    rcases ruleOf_of_tokenOf htoken nofun with ⟨-, heq⟩ | ⟨hrule, -⟩ | ⟨op, -, heq⟩
    · cases heq
    · exact (text_of_ruleOf text).1 hrule
    · cases heq
  · rintro rfl
    exact scope.tokenOf_opening

theorem tokenOf_eq_closing_iff : scope.tokenOf text = .ok .closing ↔ text = ")" := by
  constructor
  · intro htoken
    rcases ruleOf_of_tokenOf htoken nofun with ⟨hrule, -⟩ | ⟨-, heq⟩ | ⟨op, -, heq⟩
    · exact (text_of_ruleOf text).2 hrule
    · cases heq
    · cases heq
  · rintro rfl
    exact scope.tokenOf_closing

theorem arguments_ne_emptyExpression (name : String) (inner : List Char) :
    arguments name inner ≠ .error .emptyExpression := by
  rw [arguments]
  split
  · nofun
  · intro hempty
    obtain ⟨cs, -, hargument⟩ := exists_of_mapM_eq_error hempty
    rw [argument] at hargument
    split at hargument <;> cases hargument

/-- The fault of an empty text is not that of any word. -/
theorem tokenOf_ne_emptyExpression (scope : Scope) (text : String) :
    scope.tokenOf text ≠ .error .emptyExpression := by
  rw [tokenOf_eq_read]
  cases ruleOf text with
  | lag =>
      rw [Rule.read, lag]
      split
      · simp
      · split <;> simp
  | call =>
      rw [Rule.read, call]
      split
      · simp
      · simp
      · simp only
        split
        · exact fun hempty => arguments_ne_emptyExpression _ _ (map_eq_error hempty)
        · simp
  | name =>
      rw [Rule.read]
      split <;> simp
  | _ => simp [Rule.read]

end Scope

/-! ## The parentheses on the stack -/

namespace Pending

/-- The positions of the parentheses that wait, the topmost first. -/
def positions : List Pending → List Nat
  | [] => []
  | .operator _ :: rest => positions rest
  | .paren position :: rest => position :: positions rest

theorem positions_append (ops : List Operator) (stack : List Pending) :
    positions (ops.map .operator ++ stack) = positions stack := by
  induction ops with
  | nil => rfl
  | cons op rest ih => exact ih

/-- An operator takes no parenthesis from the stack. -/
theorem positions_popTighter (op : Operator) (stack : List Pending) :
    positions (popTighter op stack).2 = positions stack := by
  conv_rhs => rw [← popTighter_append_eq op stack, positions_append]

theorem popParen?_of_positions_eq_nil {stack : List Pending} (hnone : positions stack = []) :
    popParen? stack = none := by
  induction stack with
  | nil => rfl
  | cons pending rest ih =>
      cases pending with
      | paren position => cases hnone
      | operator top =>
          rw [popParen?, ih hnone]
          rfl

theorem popParen?_of_positions_eq_cons {stack : List Pending} {position : Nat}
    {outer : List Nat} (hpositions : positions stack = position :: outer) :
    ∃ ops below, popParen? stack = some (ops, below) ∧ positions below = outer := by
  induction stack with
  | nil => cases hpositions
  | cons pending rest ih =>
      cases pending with
      | paren waiting =>
          cases hpositions
          exact ⟨[], rest, rfl, rfl⟩
      | operator top =>
          obtain ⟨ops, below, hpop, hbelow⟩ := ih hpositions
          exact ⟨top :: ops, below, by rw [popParen?, hpop]; rfl, hbelow⟩

theorem popAll_of_positions_eq_nil {stack : List Pending} (hnone : positions stack = []) :
    ∃ nodes, popAll stack = .ok nodes := by
  induction stack with
  | nil => exact ⟨[], rfl⟩
  | cons pending rest ih =>
      cases pending with
      | paren position => cases hnone
      | operator top =>
          obtain ⟨nodes, hnodes⟩ := ih hnone
          exact ⟨.operator top :: nodes, by rw [popAll, hnodes]; rfl⟩

theorem popAll_of_positions_eq_cons {stack : List Pending} {position : Nat} {outer : List Nat}
    (hpositions : positions stack = position :: outer) :
    popAll stack = .error ⟨.mismatchedParentheses, position⟩ := by
  induction stack with
  | nil => cases hpositions
  | cons pending rest ih =>
      cases pending with
      | paren waiting =>
          cases hpositions
          rfl
      | operator top =>
          rw [popAll, ih hpositions]
          rfl

end Pending

/-! ## What stops the reading -/

open Lexeme (openings closings LeavesOpen)

/-- Why reading stops at a lexeme after others: it means nothing, or it is a closing parenthesis and
none is open before it. -/
inductive StopsAt (scope : Scope) (before : List Lexeme) (lexeme : Lexeme) : CompileError → Prop
  | meaningless {fault : CompileFault} (htoken : scope.tokenOf lexeme.text = .error fault) :
      StopsAt scope before lexeme ⟨fault, lexeme.position⟩
  | unopened (hclosing : lexeme.text = ")") (hbefore : openings before ≤ closings before) :
      StopsAt scope before lexeme ⟨.mismatchedParentheses, lexeme.position⟩

/-- Whether reading does not stop before the end of the lexemes. -/
def Readable (scope : Scope) (lexemes : List Lexeme) : Prop :=
  ∀ before lexeme after e, lexemes = before ++ lexeme :: after → ¬ StopsAt scope before lexeme e

theorem readable_nil (scope : Scope) : Readable scope [] := by
  intro before lexeme after e hsplit
  simp at hsplit

namespace Readable

variable {scope : Scope} {lexemes : List Lexeme}

theorem append_singleton {lexeme : Lexeme} (hreadable : Readable scope lexemes)
    (hlexeme : ∀ e, ¬ StopsAt scope lexemes lexeme e) : Readable scope (lexemes ++ [lexeme]) := by
  intro before other after e hsplit
  rcases List.eq_nil_or_concat after with rfl | ⟨rest, last, rfl⟩
  · obtain ⟨rfl, heq⟩ := List.append_inj' hsplit rfl
    cases heq
    exact hlexeme e
  · rw [List.concat_eq_append, ← List.cons_append, ← List.append_assoc] at hsplit
    obtain ⟨rfl, -⟩ := List.append_inj' hsplit rfl
    exact hreadable before other rest e rfl

theorem of_append {rest : List Lexeme} (hreadable : Readable scope (lexemes ++ rest)) :
    Readable scope lexemes := by
  rintro before lexeme after e rfl
  exact hreadable before lexeme (after ++ rest) e (by simp)

/-- If reading stops, it stops at a first lexeme. -/
theorem exists_stopsAt (hnot : ¬ Readable scope lexemes) :
    ∃ before lexeme after e, lexemes = before ++ lexeme :: after ∧ Readable scope before ∧
      StopsAt scope before lexeme e := by
  induction lexemes using List.reverseRecOn with
  | nil => exact absurd (readable_nil scope) hnot
  | append_singleton lexemes lexeme ih =>
      by_cases hlexemes : Readable scope lexemes
      · by_cases hstops : ∃ e, StopsAt scope lexemes lexeme e
        · obtain ⟨e, he⟩ := hstops
          exact ⟨lexemes, lexeme, [], e, rfl, hlexemes, he⟩
        · exact absurd (hlexemes.append_singleton fun e he => hstops ⟨e, he⟩) hnot
      · obtain ⟨before, first, after, e, rfl, hbefore, he⟩ := ih hlexemes
        exact ⟨before, first, after ++ [lexeme], e, by simp, hbefore, he⟩

end Readable

namespace Formula

variable {scope : Scope}

/-! ## Reading from the left -/

/-- Lexemes that can be read leave nodes behind, and a stack on which the parentheses wait that they
leave open. -/
theorem exists_arrange_append {before : List Lexeme} (hreadable : Readable scope before) :
    ∃ nodes stack, LeavesOpen before (Pending.positions stack) ∧
      ∀ after, arrange scope (before ++ after) [] =
        (arrange scope after stack).map (nodes ++ ·) := by
  induction before using List.reverseRecOn with
  | nil =>
      refine ⟨[], [], .balanced Lexeme.balanced_nil, fun after => ?_⟩
      rw [List.nil_append]
      cases arrange scope after [] <;> rfl
  | append_singleton before lexeme ih =>
      obtain ⟨nodes, stack, hleaves, harrange⟩ := ih hreadable.of_append
      have hlexeme : ∀ e, ¬ StopsAt scope before lexeme e :=
        fun e => hreadable before lexeme [] e rfl
      cases htoken : scope.tokenOf lexeme.text with
      | error fault => exact absurd (StopsAt.meaningless htoken) (hlexeme _)
      | ok token =>
          -- a lexeme that is no parenthesis changes nothing about those that are open
          have hneutral : token ≠ .opening → token ≠ .closing →
              LeavesOpen (before ++ [lexeme]) (Pending.positions stack) := by
            intro hopening hclosing
            refine hleaves.append_balanced (Lexeme.balanced_singleton ?_ ?_)
            · intro htext
              rw [Scope.tokenOf_eq_opening_iff.mpr htext] at htoken
              exact hopening (Except.ok.inj htoken).symm
            · intro htext
              rw [Scope.tokenOf_eq_closing_iff.mpr htext] at htoken
              exact hclosing (Except.ok.inj htoken).symm
          cases token with
          | operand o =>
              refine ⟨nodes ++ [.operand o], stack, hneutral nofun nofun, fun after => ?_⟩
              rw [List.append_assoc, harrange, List.singleton_append, arrange_operand htoken,
                map_append_map]
          | operator op =>
              refine ⟨nodes ++ (Pending.popTighter op stack).1.map .operator,
                .operator op :: (Pending.popTighter op stack).2, ?_, fun after => ?_⟩
              · rw [Pending.positions, Pending.positions_popTighter]
                exact hneutral nofun nofun
              · rw [List.append_assoc, harrange, List.singleton_append,
                  arrange_operator htoken rfl, map_append_map]
          | opening =>
              refine ⟨nodes, .paren lexeme.position :: stack, ?_, fun after => ?_⟩
              · exact hleaves.append_opening (Scope.tokenOf_eq_opening_iff.mp htoken)
              · rw [List.append_assoc, harrange, List.singleton_append, arrange_opening htoken]
          | closing =>
              have hclosing := Scope.tokenOf_eq_closing_iff.mp htoken
              cases hpositions : Pending.positions stack with
              | nil =>
                  rw [hpositions] at hleaves
                  have hequal : openings before ≤ closings before := by
                    rw [hleaves.openings_eq]
                    exact Nat.le_refl _
                  exact absurd (StopsAt.unopened hclosing hequal) (hlexeme _)
              | cons position outer =>
                  rw [hpositions] at hleaves
                  obtain ⟨ops, below, hpop, rfl⟩ :=
                    Pending.popParen?_of_positions_eq_cons hpositions
                  refine ⟨nodes ++ ops.map .operator, below, hleaves.append_closing hclosing,
                    fun after => ?_⟩
                  rw [List.append_assoc, harrange, List.singleton_append,
                    arrange_closing htoken hpop, map_append_map]

end Formula

end Screener
