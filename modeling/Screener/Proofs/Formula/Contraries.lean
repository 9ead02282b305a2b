import Screener.Proofs.Decimal.Order
import Screener.Proofs.Formula.Faults
import Screener.Proofs.Formula.Interchange

/-!
# Equal and different

`==` and `!=` are two tests on the difference of two numbers, and a comparison of truth values and its
negation.  On a row where both operands have an entry they say the opposite of each other, with one
exception: numbers without a difference, such as twice the same infinity, are neither equal nor
different (`Series.Contrary`, `Decimal.NoDifference`).

The two operators bind equally tightly and are written with as many characters, so nothing else can
tell the two texts apart: they do not compile for one reason at one place, or the same operands fail,
or the last step compares the same two series (`Session.equal_contrary_different`).
-/

namespace Screener

open Decimal (NoDifference)

/-! ## Entries and rows -/

namespace Series

/-- What `==` and `!=` say of two entries: nothing if one of them is missing, opposite things in
general, and no both times if there is nothing between the two that could be small or large. -/
inductive Contrary {α : Type} (Lost : α → α → Prop) :
    Option α → Option α → Option Bool → Option Bool → Prop
  | missing {a b : Option α} (hmissing : a = none ∨ b = none) : Contrary Lost a b none none
  | opposite {a b : α} (hdefined : ¬ Lost a b) (verdict : Bool) :
      Contrary Lost (some a) (some b) (some verdict) (some (!verdict))
  | neither {a b : α} (hlost : Lost a b) :
      Contrary Lost (some a) (some b) (some false) (some false)

/-- What `==` and `!=` say row by row. -/
inductive Contraries {α : Type} (Lost : α → α → Prop) :
    List (Option α) → List (Option α) → List (Option Bool) → List (Option Bool) → Prop
  | nil : Contraries Lost [] [] [] []
  | cons {a b : Option α} {equal different : Option Bool} {left right : List (Option α)}
      {equals differents : List (Option Bool)} (hrow : Contrary Lost a b equal different)
      (hrest : Contraries Lost left right equals differents) :
      Contraries Lost (a :: left) (b :: right) (equal :: equals) (different :: differents)

/-- What `==` and `!=` give for two series.  Series of different kinds they do not take, and each names
itself; truth values are always the same or not. -/
inductive Compared : Series → Series → Except EvaluationError Series →
    Except EvaluationError Series → Prop
  | mismatch {left right : Series} (hkinds : left.kind ≠ right.kind) :
      Compared left right (.error (mismatch .eq left right)) (.error (mismatch .ne left right))
  | numbers {left right : List (Option Float)} {equal different : List (Option Bool)}
      (hrows : Contraries NoDifference left right equal different) :
      Compared (.numbers left) (.numbers right) (.ok (.truths equal)) (.ok (.truths different))
  | truths {left right equal different : List (Option Bool)}
      (hrows : Contraries (fun _ _ => False) left right equal different) :
      Compared (.truths left) (.truths right) (.ok (.truths equal)) (.ok (.truths different))

theorem contrary_numbers (a b : Float) :
    Contrary NoDifference (some a) (some b) (some (decide ((a - b).abs ≤ tolerance)))
      (some (decide ((a - b).abs > tolerance))) := by
  cases hnan : (a - b).isNaN with
  | true =>
      have habs : (a - b).abs.isNaN = true := (Decimal.isNaN_abs _).trans hnan
      obtain ⟨hle, hgt⟩ := Decimal.neither_of_isNaN habs tolerance
      rw [decide_eq_false hle, decide_eq_false hgt]
      exact .neither ((Decimal.isNaN_sub_iff a b).mp hnan)
  | false =>
      have habs : (a - b).abs.isNaN = false := (Decimal.isNaN_abs _).trans hnan
      have htolerance : tolerance.isNaN = false := by decide +kernel
      have hcontrary := Decimal.gt_iff_not_le habs htolerance
      rw [decide_eq_decide.mpr hcontrary, decide_not]
      refine .opposite (fun hlost => ?_) _
      rw [(Decimal.isNaN_sub_iff a b).mpr hlost] at hnan
      cases hnan

theorem contraries_zipPresent {α : Type} {Lost : α → α → Prop} {equal different : α → α → Bool}
    (hrow : ∀ a b, Contrary Lost (some a) (some b) (some (equal a b)) (some (different a b)))
    {left right : List (Option α)} (hlength : left.length = right.length) :
    Contraries Lost left right (zipPresent equal left right) (zipPresent different left right) := by
  induction left generalizing right with
  | nil =>
      obtain rfl := List.eq_nil_of_length_eq_zero hlength.symm
      exact .nil
  | cons a left ih =>
      cases right with
      | nil => cases hlength
      | cons b right =>
          refine .cons ?_ (ih (Nat.succ.inj hlength))
          cases a with
          | none => exact .missing (.inl rfl)
          | some a =>
              cases b with
              | none => exact .missing (.inr rfl)
              | some b => exact hrow a b

/-- The two operators on two series of one length. -/
theorem compared_combine {left right : Series} (hlength : left.length = right.length) :
    Compared left right (combine .eq left right) (combine .ne left right) := by
  unfold combine
  rw [if_neg (not_not_intro hlength), if_neg (not_not_intro hlength)]
  cases left with
  | numbers left =>
      cases right with
      | numbers right => exact .numbers (contraries_zipPresent contrary_numbers hlength)
      | truths right => exact .mismatch nofun
  | truths left =>
      cases right with
      | numbers right => exact .mismatch nofun
      | truths right =>
          exact .truths (contraries_zipPresent (fun a b => .opposite not_false (a == b)) hlength)

end Series

/-! ## Nodes -/

open Series (Compared)

/-- The outcomes of `==` and `!=` for the outcomes of two operands: the first failure, or what the
operators give for the two series. -/
inductive Opposed : Except ExpressionError Series → Except ExpressionError Series →
    Except ExpressionError Series → Except ExpressionError Series → Prop
  | left {second : Except ExpressionError Series} (e : ExpressionError) :
      Opposed (.error e) second (.error e) (.error e)
  | right {s : Series} (e : ExpressionError) : Opposed (.ok s) (.error e) (.error e) (.error e)
  | both {s t : Series} {equal different : Except EvaluationError Series}
      (hcompared : Compared s t equal different) :
      Opposed (.ok s) (.ok t) (equal.mapError .evaluation) (different.mapError .evaluation)

/-- Whatever the nodes before the operator do, it is all the same to the two operators up to the
comparison itself. -/
theorem reduce_opposed (operand : Operand → Except EvaluationError Series) (nodes : List Node)
    (stack : List Series) :
    ∃ first second, Opposed first second
      ((reduce operand (nodes ++ [.operator .eq]) stack).mapError .evaluation)
      ((reduce operand (nodes ++ [.operator .ne]) stack).mapError .evaluation) := by
  have hfails : ∀ e, ∃ first second, Opposed first second
      ((.error e : Except EvaluationError Series).mapError .evaluation)
      ((.error e : Except EvaluationError Series).mapError .evaluation) :=
    fun e => ⟨.error (.evaluation e), .error (.evaluation e), .left _⟩
  induction nodes generalizing stack with
  | nil =>
      match stack with
      | [] => exact hfails _
      | [_] => exact hfails _
      | right :: left :: below =>
          rw [List.nil_append, List.nil_append, reduce, reduce, settle_eq, settle_eq]
          by_cases hlength : left.length = right.length
          · have hcompared := Series.compared_combine hlength
            generalize Series.combine .eq left right = equal at hcompared ⊢
            generalize Series.combine .ne left right = different at hcompared ⊢
            cases below with
            | nil =>
                have hdone : ∀ result : Except EvaluationError Series,
                    (result >>= fun series => reduce operand [] [series]) = result := by
                  intro result
                  cases result <;> rfl
                rw [hdone, hdone]
                exact ⟨_, _, .both hcompared⟩
            | cons _ _ =>
                -- after a comparison that succeeds there is more than one value in both cases
                cases hcompared with
                | mismatch hkinds => exact ⟨_, _, .both (.mismatch hkinds)⟩
                | numbers _ => exact hfails _
                | truths _ => exact hfails _
          · unfold Series.combine
            rw [if_pos hlength, if_pos hlength]
            exact hfails _
  | cons node rest ih =>
      rw [List.cons_append, List.cons_append]
      cases node with
      | operand o =>
          rw [reduce, reduce]
          cases operand o with
          | error e => exact hfails e
          | ok series => exact ih (series :: stack)
      | operator op =>
          match stack with
          | [] => exact hfails _
          | [_] => exact hfails _
          | right :: left :: below =>
              rw [reduce, reduce, settle_eq]
              cases Series.combine op left right with
              | error e => exact hfails e
              | ok series => exact ih (series :: below)

/-! ## Sessions -/

namespace Session

variable {session : Session}

/-- What an operand stands for, without a memory. -/
def operand (session : Session) : Operand → Except EvaluationError Series :=
  Operand.series session.env session.env.compute
    (session.env.definition session.bindings.formulas)

theorem meaning_eq_compile_iff {source : String} {e : CompileError} :
    session.meaning source = .error (.compile e) ↔ session.compile source = .error e := by
  rw [meaning]
  cases session.compile source with
  | error e' =>
      show (Except.error (ExpressionError.compile e') : Except ExpressionError Series) = _ ↔ _
      rw [Except.error.injEq, Except.error.injEq, ExpressionError.compile.injEq]
  | ok formula =>
      show (session.env.meaning _ formula).mapError ExpressionError.evaluation = _ ↔ _
      constructor
      · intro hmeaning
        cases hresult : session.env.meaning session.bindings.formulas formula with
        | error e' => rw [hresult] at hmeaning; cases hmeaning
        | ok series => rw [hresult] at hmeaning; cases hmeaning
      · intro hcompile
        cases hcompile

/-- The two operators bind equally tightly and have symbols of one length. -/
theorem compile_agree (session : Session) (left right : String) :
    FailAlike (session.compile (Operator.eq.joining left right))
      (session.compile (Operator.ne.joining left right)) := by
  have hprecedence : Operator.eq.precedence = Operator.ne.precedence := rfl
  exact Formula.compile_interchange hprecedence rfl left right

/-- Texts with balanced parentheses, whatever else is the matter with them. -/
theorem opposed_of_balanced (session : Session) {left right : String}
    (hleft : Lexeme.Balanced (Lexeme.ofText left))
    (hright : Lexeme.Balanced (Lexeme.ofText right)) :
    ∃ first second, Opposed first second (session.meaning (Operator.eq.joining left right))
      (session.meaning (Operator.ne.joining left right)) := by
  cases hcompile : session.compile (Operator.eq.joining left right) with
  | error e =>
      have hcompile' := ((compile_agree session left right).eq_error_iff e).mp hcompile
      rw [meaning, meaning, hcompile, hcompile']
      exact ⟨_, .error (.compile e), .left _⟩
  | ok formula =>
      have hwords : ∀ word ∈ Lexeme.words (Operator.eq.joining left right),
          ∃ token, session.scope.tokenOf word = .ok token := by
        intro word hword
        obtain ⟨lexeme, hlexeme, rfl⟩ := List.mem_map.mp hword
        exact (Formula.arranges_of_compile hcompile).exists_token hlexeme
      rw [Lexeme.words_joining] at hwords
      obtain ⟨nodes, hnodes⟩ := Formula.exists_arrange_words hleft fun lexeme hlexeme =>
        hwords lexeme.text (by simp [Lexeme.words, List.mem_map_of_mem hlexeme])
      obtain ⟨nodes', hnodes'⟩ := Formula.exists_arrange_words hright fun lexeme hlexeme =>
        hwords lexeme.text (by simp [Lexeme.words, List.mem_map_of_mem hlexeme])
      have hboth : ∀ op : Operator, session.meaning (op.joining left right) =
          (reduce session.operand ((nodes ++ nodes') ++ [.operator op]) []).mapError
            .evaluation := by
        intro op
        rw [meaning_of_compile (Formula.compile_joining op hnodes hnodes'), List.append_assoc]
        rfl
      rw [hboth, hboth]
      exact reduce_opposed _ _ []

/-- Texts that stand for a value each: their values are compared. -/
theorem opposed_of_definiens (session : Session) {left right : String} {formula formula' : Formula}
    (hleft : session.definiens left = .ok formula)
    (hright : session.definiens right = .ok formula') :
    Opposed (session.meaning left) (session.meaning right)
      (session.meaning (Operator.eq.joining left right))
      (session.meaning (Operator.ne.joining left right)) := by
  obtain ⟨hcompile, harity⟩ := compile_of_definiens hleft
  obtain ⟨hcompile', harity'⟩ := compile_of_definiens hright
  have hjoining : ∀ op : Operator, session.meaning (op.joining left right) =
      (reduce session.operand formula.nodes [] >>= fun s =>
        reduce session.operand formula'.nodes [] >>= fun t =>
          Series.combine op s t).mapError .evaluation := by
    intro op
    have hcompiled := Formula.compile_joining op (Formula.arrange_words_of_compile hcompile)
      (Formula.arrange_words_of_compile hcompile')
    rw [meaning_of_compile hcompiled]
    refine congrArg (Except.mapError ExpressionError.evaluation) ?_
    refine (reduce_closed_append session.operand harity _ []).trans ?_
    refine congrArg _ (funext fun s => ?_)
    refine (reduce_closed_append session.operand harity' _ [s]).trans ?_
    refine congrArg _ (funext fun t => ?_)
    rw [reduce, settle_eq]
    cases Series.combine op s t <;> rfl
  have hmeaning : ∀ {source : String} {f : Formula}, session.compile source = .ok f →
      session.meaning source = (reduce session.operand f.nodes []).mapError .evaluation :=
    meaning_of_compile
  rw [hmeaning hcompile, hmeaning hcompile', hjoining, hjoining]
  cases hfirst : reduce session.operand formula.nodes [] with
  | error e => exact .left _
  | ok s =>
      cases hsecond : reduce session.operand formula'.nodes [] with
      | error e => exact .right _
      | ok t =>
          have hs : s.length = session.env.frame.size := session.env.length_of_meaning_eq_ok hfirst
          have ht : t.length = session.env.frame.size := session.env.length_of_meaning_eq_ok hsecond
          exact .both (Series.compared_combine (hs.trans ht.symm))

/-- **`!=` says the opposite of `==`, except of numbers without a difference.**  After any questions, two
texts in parentheses with `==` or `!=` between them do not compile for the same reason at the same
place, whatever the texts are.  If each of them has a value, the outcome is the first failure of an
operand, or a failure that names the operator, or truth values that are missing on the same rows and
opposite on all others but those where the numbers have no difference; there both are false.  Texts
with balanced parentheses that have no value fail alike or end with such a comparison. -/
theorem equal_contrary_different (frame : Frame) (registry : Registry)
    (questions : List Question) :
    let session := (start frame registry).asked questions
    let result := fun source : String => (session.evaluate source).1
    (∀ left right e, result (Operator.eq.joining left right) = .error (.compile e) ↔
      result (Operator.ne.joining left right) = .error (.compile e)) ∧
    (∀ left right formula formula', session.definiens left = .ok formula →
      session.definiens right = .ok formula' →
      Opposed (result left) (result right) (result (Operator.eq.joining left right))
        (result (Operator.ne.joining left right))) ∧
    ∀ left right, Lexeme.Balanced (Lexeme.ofText left) → Lexeme.Balanced (Lexeme.ofText right) →
      ∃ first second, Opposed first second (result (Operator.eq.joining left right))
        (result (Operator.ne.joining left right)) := by
  intro session result
  have horderly : session.Orderly := orderly_asked (orderly_start frame registry) questions
  have hresult : ∀ source, result source = session.meaning source :=
    fun source => (evaluate_of_sound horderly.sound source).1
  simp only [hresult]
  refine ⟨fun left right e => ?_, fun left right formula formula' hleft hright => ?_,
    fun left right hleft hright => ?_⟩
  · rw [meaning_eq_compile_iff, meaning_eq_compile_iff]
    exact (compile_agree session left right).eq_error_iff e
  · exact opposed_of_definiens session hleft hright
  · exact opposed_of_balanced session hleft hright

/-- Five days on which a rate is infinite twice, then two, and then undefined. -/
def fiveRates : Frame := .ofBars ([(0, 1), (0, 1), (1, 2), (1, 2), (0, 0)].map fun (first, last) =>
  ⟨⟨0, false⟩, first, last, first, last, 1, last⟩)

theorem equal_contrary_different_fiveRates :
    let session := (start fiveRates .empty).asked [.define "rate" "close / open"]
    let result := fun source : String => (session.evaluate source).1
    let holds := fun source : String =>
      (result source).toOption.map fun series => (List.range 5).map series.isTrueAt
    let equal := Operator.eq.joining "rate" "rate.shift(1)"
    let different := Operator.ne.joining "rate" "rate.shift(1)"
    equal = "( rate ) == ( rate.shift(1) )" ∧ different = "( rate ) != ( rate.shift(1) )" ∧
    (∃ formula formula', session.definiens "rate" = .ok formula ∧
      session.definiens "rate.shift(1)" = .ok formula') ∧
    Opposed (result "rate") (result "rate.shift(1)") (result equal) (result different) ∧
    holds equal = some [false, false, false, true, false] ∧
    holds different = some [false, false, true, false, false] ∧
    Lexeme.Balanced (Lexeme.ofText "rate rate") ∧ Lexeme.Balanced (Lexeme.ofText "") ∧
    ∃ first second, Opposed first second (result (Operator.eq.joining "rate rate" ""))
      (result (Operator.ne.joining "rate rate" "")) := by
  intro session result holds equal different
  have hplain : (session.definiens "rate").toBool = true := by decide +kernel
  have hlagged : (session.definiens "rate.shift(1)").toBool = true := by decide +kernel
  obtain ⟨formula, hformula⟩ := exists_of_toBool hplain
  obtain ⟨formula', hformula'⟩ := exists_of_toBool hlagged
  have hword : ∀ position, Lexeme.Balanced [⟨"rate", position⟩] :=
    fun position => Lexeme.balanced_singleton (by simp) (by simp)
  have htwice : Lexeme.Balanced (Lexeme.ofText "rate rate") := by
    have hlexemes : Lexeme.ofText "rate rate" = [⟨"rate", 0⟩] ++ [⟨"rate", 5⟩] := by
      decide +kernel
    rw [hlexemes]
    exact (hword 0).append (hword 5)
  have hempty : Lexeme.Balanced (Lexeme.ofText "") := by
    rw [Lexeme.ofText, String.toList_empty, Lexeme.scan_nil]
    exact Lexeme.balanced_nil
  have h := equal_contrary_different fiveRates .empty [.define "rate" "close / open"]
  exact ⟨by decide, by decide, ⟨formula, formula', hformula, hformula'⟩,
    h.2.1 _ _ formula formula' hformula hformula', by decide +kernel, by decide +kernel, htwice,
    hempty, h.2.2 _ _ htwice hempty⟩

end Session

end Screener
