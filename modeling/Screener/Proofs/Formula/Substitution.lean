import Screener.Proofs.Formula.Definitions
import Screener.Proofs.Formula.Dialogue
import Screener.Proofs.Formula.Isolation
import Screener.Proofs.Formula.Kinds
import Screener.Proofs.Formula.Places
import Screener.Proofs.Formula.Replacement

/-!
# Definitions written out

A name means its definition: a text that uses the name evaluates to what it evaluates to, without
the definition, when the definition is written between parentheses in the place of every word that is
the name.  The two evaluations give the same series, the same evaluation error, or a compile
error that differs in its place only.

## Strategy

Compilation puts the nodes of the definition where the reference to it was (`Formula.arrange_inline`),
because what stands between parentheses is compiled as it is alone.  Reducing these nodes is reducing
the definition (`reduce_inline`), because a definition leaves exactly one value: it does not reach
what lies below it on the stack, and its series has as many rows as the frame, so that the check of
the reference passes.  Whatever the words other than the name refer to was defined before and
means what it meant.
-/

namespace Screener

/-- A text with a definition, between parentheses, in the place of every word that is a name. -/
def substitute (name definiens text : String) : String :=
  String.ofList (Text.replaceWord name ("( " ++ definiens ++ " )").toList text.toList)

theorem Spaced.group (definiens : String) :
    Spaced ("( " ++ definiens ++ " )").toList ("(" :: Lexeme.words definiens ++ [")"]) := by
  have hend : Spaced [' ', ')'] [")"] :=
    .blank rfl (.word ")" (by decide) (Scope.solid_of_all (by decide)) nofun .nil)
  have hinner : Spaced (definiens.toList ++ [' ', ')']) (Lexeme.words definiens ++ [")"]) := by
    refine (Spaced.scan 0 definiens.toList).append hend ?_
    rintro c ⟨⟩
    rfl
  rw [String.toList_append, String.toList_append, List.append_assoc]
  refine .word "(" (by decide) (Scope.solid_of_all (by decide)) ?_ (.blank rfl hinner)
  rintro c ⟨⟩
  rfl

/-- The words of a text with a definition written out. -/
theorem words_substitute (name definiens text : String) :
    Lexeme.words (substitute name definiens text) =
      (Lexeme.words text).flatMap fun word =>
        if word = name then "(" :: Lexeme.words definiens ++ [")"] else [word] :=
  Lexeme.words_replaceWord name text (.group definiens)

/-! ## The nodes of a definition in the place of a reference -/

/-- A node, or the nodes of a definition if it refers to the definition. -/
def Node.inline (number : Nat) (inner : List Node) : Node → List Node
  | .operand (.reference name other) =>
    if other = number then inner else [.operand (.reference name other)]
  | node => [node]

theorem Node.inline_of_ne {number : Nat} (inner : List Node) {o : Operand}
    (ho : ∀ name, o ≠ .reference name number) :
    Node.inline number inner (.operand o) = [.operand o] := by
  cases o with
  | reference name other =>
      have hother : other ≠ number := by
        rintro rfl
        exact ho name rfl
      exact if_neg hother
  | literal value => rfl
  | column name => rfl
  | call c => rfl
  | lag name periods other => rfl

namespace Formula

variable {scope : Scope} {name : String} {inner : List Node}

private theorem flatMap_inline_operators (number : Nat) (inner : List Node)
    (ops : List Operator) :
    (ops.map Node.operator).flatMap (Node.inline number inner) = ops.map Node.operator := by
  induction ops with
  | nil => rfl
  | cons op ops ih =>
      rw [List.map_cons, List.flatMap_cons, ih]
      rfl

/-- What comes out first is written out first. -/
private theorem map_flatMap_inline (number : Nat) (inner first : List Node)
    (result : Except CompileError (List Node)) :
    (result.map (first ++ ·)).map (·.flatMap (Node.inline number inner)) =
      (result.map (·.flatMap (Node.inline number inner))).map
        (first.flatMap (Node.inline number inner) ++ ·) := by
  cases result with
  | error e => rfl
  | ok nodes => exact congrArg Except.ok List.flatMap_append

/-- Writing a definition out puts its nodes in the place of the references to it. -/
theorem arrange_inline (hname : Scope.IsName name) (hbounded : scope.bindings.Bounded)
    {definiens : List String} (halone : arrange scope (definiens.map .ofWord) [] = .ok inner)
    (formula : Formula) {words : List String} (hlags : ∀ word ∈ words, ¬ Scope.IsLagOf name word)
    (stack : List Pending) :
    arrange scope ((words.flatMap fun word =>
        if word = name then "(" :: definiens ++ [")"] else [word]).map .ofWord) stack =
      (arrange (scope.define name formula) (words.map .ofWord) stack).map
        (·.flatMap (Node.inline scope.bindings.next inner)) := by
  induction words generalizing stack with
  | nil =>
      show Pending.popAll stack = (Pending.popAll stack).map _
      cases hpop : Pending.popAll stack with
      | error e => rfl
      | ok nodes =>
          obtain ⟨ops, -, rfl⟩ := Pending.popAll_eq_ok hpop
          exact congrArg Except.ok (flatMap_inline_operators _ inner ops).symm
  | cons word rest ih =>
      have hrest := ih fun other hother => hlags other (List.mem_cons_of_mem _ hother)
      rw [List.flatMap_cons, List.map_append, List.map_cons]
      by_cases hword : word = name
      · -- before the definition the group is compiled as it would be alone, after it the reference
        -- comes out and is then written out
        have hself : (scope.define name formula).tokenOf (Lexeme.ofWord name).text =
            .ok (.operand (.reference name scope.bindings.next)) :=
          scope.tokenOf_define_self hname formula
        rw [if_pos hword, hword, arrange_operand hself, map_flatMap_inline, ← hrest,
          List.map_append, List.map_cons, List.append_assoc]
        have hinner : [Node.operand (.reference name scope.bindings.next)].flatMap
            (Node.inline scope.bindings.next inner) = inner := by
          simp [Node.inline]
        rw [hinner]
        exact arrange_group halone rfl rfl _ stack
      · -- another word is read as before, and what comes out of it is no reference to the definition
        have htoken := scope.tokenOf_define_of_ne hword (hlags word List.mem_cons_self) formula
        have hclassify : (scope.define name formula).classify (.ofWord word) =
            scope.classify (.ofWord word) := congrArg (Except.mapError _) htoken
        rw [if_neg hword, List.map_cons, List.map_nil, List.singleton_append, arrange, arrange,
          hclassify]
        cases hclassified : scope.classify (.ofWord word) with
        | error e => rfl
        | ok token =>
            cases token with
            | operand o =>
                -- the operand refers to an earlier definition, so it stays as it is
                have hdenotes := Scope.denotes_of_tokenOf (tokenOf_of_classify hclassified)
                have ho : ∀ other, o ≠ .reference other scope.bindings.next := by
                  rintro other rfl
                  exact Nat.lt_irrefl _ (Scope.lt_next_of_denotes hbounded hdenotes rfl)
                have hkept : [Node.operand o].flatMap (Node.inline scope.bindings.next inner) =
                    [.operand o] := by
                  rw [List.flatMap_singleton, Node.inline_of_ne inner ho]
                show (arrange scope _ stack).map ([.operand o] ++ ·) =
                  ((arrange _ _ stack).map ([.operand o] ++ ·)).map _
                rw [map_flatMap_inline, ← hrest, hkept]
            | operator op =>
                show (arrange scope _ _).map _ = ((arrange _ _ _).map _).map _
                rw [map_flatMap_inline, ← hrest, flatMap_inline_operators]
            | opening => exact hrest _
            | closing =>
                cases hpop : Pending.popParen? stack with
                | none => rfl
                | some popped =>
                    obtain ⟨ops, below⟩ := popped
                    show (arrange scope _ below).map _ = ((arrange _ _ below).map _).map _
                    rw [map_flatMap_inline, ← hrest, flatMap_inline_operators]

theorem nodesOf_inline (hname : Scope.IsName name) (hbounded : scope.bindings.Bounded)
    {definiens : List String} (halone : arrange scope (definiens.map .ofWord) [] = .ok inner)
    (formula : Formula) {words : List String}
    (hlags : ∀ word ∈ words, ¬ Scope.IsLagOf name word) :
    nodesOf scope (words.flatMap fun word =>
        if word = name then "(" :: definiens ++ [")"] else [word]) =
      (nodesOf (scope.define name formula) words).map
        (·.flatMap (Node.inline scope.bindings.next inner)) := by
  cases words with
  | nil => rfl
  | cons word rest =>
      have hwords : (word :: rest).flatMap (fun word =>
          if word = name then "(" :: definiens ++ [")"] else [word]) ≠ [] := by
        rw [List.flatMap_cons]
        split <;> simp
      rw [nodesOf_eq_arrange scope hwords, nodesOf_eq_arrange _ (List.cons_ne_nil word rest)]
      exact arrange_inline hname hbounded halone formula hlags []

/-- The operands among the nodes of words are what the words stand for. -/
theorem exists_tokenOf_of_mem_nodesOf {words : List String} {nodes : List Node}
    (hnodes : nodesOf scope words = .ok nodes) {o : Operand} (hmem : .operand o ∈ nodes) :
    ∃ word ∈ words, scope.tokenOf word = .ok (.operand o) := by
  cases words with
  | nil => cases hnodes
  | cons word rest =>
      obtain ⟨lexeme, hlexeme, htoken⟩ := (arranges_of_arrange hnodes).exists_tokenOf hmem
      obtain ⟨other, hother, rfl⟩ := List.mem_map.mp hlexeme
      exact ⟨other, hother, htoken⟩

end Formula

/-! ## Reducing a definition in the place of a reference -/

/-- If a reference stands for what the nodes of its definition reduce to, it may be replaced by these
nodes. -/
theorem reduce_inline {m : Type → Type} [Monad m] [MonadExceptOf EvaluationError m] [LawfulMonad m]
    {operand operand' : Operand → m Series} {number : Nat} {inner : List Node}
    (harity : Formula.arityFrom 0 inner = .ok ())
    (hreference : ∀ name, operand' (.reference name number) = reduce operand inner [])
    {nodes : List Node}
    (hother : ∀ o, .operand o ∈ nodes → (∀ name, o ≠ .reference name number) →
      operand' o = operand o)
    (stack : List Series) :
    reduce operand (nodes.flatMap (Node.inline number inner)) stack =
      reduce operand' nodes stack := by
  induction nodes generalizing stack with
  | nil =>
      match stack with
      | [] => rfl
      | [series] => rfl
      | _ :: _ :: _ => rfl
  | cons node rest ih =>
      have hrest := ih fun o hmem => hother o (List.mem_cons_of_mem _ hmem)
      rw [List.flatMap_cons]
      cases node with
      | operand o =>
          by_cases hname : ∃ name, o = .reference name number
          · -- the nodes of the definition leave one value, whatever lies below them
            obtain ⟨name, rfl⟩ := hname
            have hinline : Node.inline number inner (.operand (.reference name number)) = inner :=
              if_pos rfl
            rw [hinline, reduce_closed_append operand harity, reduce, hreference]
            congr 1
            funext series
            exact hrest _
          · have ho : ∀ name, o ≠ .reference name number := fun name h => hname ⟨name, h⟩
            rw [Node.inline_of_ne inner ho, List.singleton_append, reduce, reduce,
              hother o List.mem_cons_self ho]
            congr 1
            funext series
            exact hrest _
      | operator op =>
          show reduce operand (.operator op :: rest.flatMap _) stack = _
          match stack with
          | [] => rfl
          | [series] => rfl
          | right :: left :: below =>
              rw [reduce, reduce]
              congr 1
              funext series
              exact hrest _

/-! ## Series have as many rows as the frame -/

namespace Environment

variable {env : Environment} {definition : Nat → Except EvaluationError Series}

theorem length_of_series_eq_ok {call : Call → Except EvaluationError Series} {o : Operand}
    {series : Series} (hseries : o.series env call definition = .ok series) :
    series.length = env.frame.size := by
  obtain ⟨found, -, hchecked⟩ := bind_eq_ok hseries
  rw [settle_eq, checkLength] at hchecked
  split at hchecked
  · next hlength =>
    cases hchecked
    exact hlength
  · cases hchecked

theorem length_of_reduce_eq_ok {operand : Operand → Except EvaluationError Series} {rows : Nat}
    (hoperand : ∀ o series, operand o = .ok series → series.length = rows) {nodes : List Node}
    {stack : List Series} (hstack : ∀ series ∈ stack, series.length = rows) {series : Series}
    (hreduce : reduce operand nodes stack = .ok series) : series.length = rows := by
  induction nodes generalizing stack with
  | nil =>
      match stack with
      | [] => cases hreduce
      | [only] =>
          cases hreduce
          exact hstack _ List.mem_cons_self
      | _ :: _ :: _ => cases hreduce
  | cons node rest ih =>
      cases node with
      | operand o =>
          obtain ⟨found, hfound, hrest⟩ := bind_eq_ok hreduce
          refine ih ?_ hrest
          intro other hother
          rcases List.mem_cons.mp hother with rfl | hother
          · exact hoperand o _ hfound
          · exact hstack other hother
      | operator op =>
          match stack with
          | [] => cases hreduce
          | [_] => cases hreduce
          | right :: left :: below =>
              obtain ⟨found, hfound, hrest⟩ := bind_eq_ok hreduce
              rw [settle_eq] at hfound
              have hright : right.length = rows := hstack right (by simp)
              have hleft : left.length = rows := hstack left (by simp)
              have hlength := Series.length_of_combine_eq_ok (hleft.trans hright.symm) hfound
              refine ih ?_ hrest
              intro other hother
              rcases List.mem_cons.mp hother with rfl | hother
              · exact hlength.trans hleft
              · exact hstack other (by simp [hother])

theorem length_of_meaning_eq_ok (env : Environment) {definitions : List Formula}
    {formula : Formula} {series : Series}
    (hmeaning : env.meaning definitions formula = .ok series) :
    series.length = env.frame.size := by
  have hempty : ∀ below ∈ ([] : List Series), below.length = env.frame.size := by simp
  exact length_of_reduce_eq_ok (fun _ _ => length_of_series_eq_ok) hempty hmeaning

/-- A formula has as many rows as the frame, so that checking them changes nothing. -/
theorem meaning_bind_checkLength (env : Environment) (definitions : List Formula)
    (formula : Formula) :
    (env.meaning definitions formula >>= fun series =>
      (settle (env.checkLength series) : Except EvaluationError Series)) =
        env.meaning definitions formula := by
  cases hmeaning : env.meaning definitions formula with
  | error e => rfl
  | ok series =>
      show settle (env.checkLength series) = _
      rw [settle_eq, checkLength, if_pos (env.length_of_meaning_eq_ok hmeaning)]

/-- A reference to the latest definition is its formula among the earlier ones. -/
theorem series_reference (env : Environment) (formula : Formula) (earlier : List Formula)
    (name : String) :
    Operand.series env env.compute (env.definition (formula :: earlier))
        (.reference name earlier.length) =
      env.meaning earlier formula := by
  rw [Operand.series, Operand.content, env.definition_length, meaning_bind_checkLength]

/-- A formula that uses the latest definition means what it means with the nodes of the definition
in the place of the references to it. -/
theorem meaning_inline (env : Environment) {formula : Formula} (earlier : List Formula)
    (harity : formula.checkArity = .ok ()) {nodes : List Node}
    (hearlier : ∀ o, .operand o ∈ nodes → (∀ name, o ≠ .reference name earlier.length) →
      ∀ number, o.definition? = some number → number < earlier.length) (source : String) :
    env.meaning earlier ⟨source, nodes.flatMap (Node.inline earlier.length formula.nodes)⟩ =
      env.meaning (formula :: earlier) ⟨source, nodes⟩ := by
  refine reduce_inline harity (fun name => ?_) (fun o hmem ho => ?_) []
  · exact env.series_reference formula earlier name
  · apply Operand.series_congr
    intro number hnumber
    exact env.definition_cons_of_lt formula (hearlier o hmem ho number hnumber)

end Environment

/-! ## Sessions -/

namespace Session

/-- A definition that is made is that of a formula whose operators find their operands. -/
theorem exists_of_define {session next : Session} {name source : String}
    (hdefine : session.define name source = .ok next) :
    ∃ formula, session.compile source = .ok formula ∧ formula.checkArity = .ok () ∧
      next = { session with bindings := session.bindings.define name formula } := by
  rw [define_eq_map] at hdefine
  obtain ⟨formula, hdefiniens, rfl⟩ := map_eq_ok hdefine
  obtain ⟨hcompile, harity⟩ := compile_of_definiens hdefiniens
  exact ⟨formula, hcompile, harity, rfl⟩

/-- What questions keep: the memory holds nothing wrong, and names stand for definitions. -/
structure Orderly (session : Session) : Prop where
  sound : session.Sound
  bounded : session.bindings.Bounded

theorem orderly_start (frame : Frame) (registry : Registry) : (start frame registry).Orderly where
  sound := sound_start frame registry
  bounded := Bindings.bounded_empty

theorem Orderly.define {session next : Session} (horderly : session.Orderly)
    {name source : String} (hdefine : session.define name source = .ok next) : next.Orderly := by
  obtain ⟨formula, -, -, rfl⟩ := exists_of_define hdefine
  exact ⟨horderly.sound.define name formula, horderly.bounded.define name formula⟩

theorem Orderly.ask {session : Session} (horderly : session.Orderly) (question : Question) :
    (session.ask question).2.Orderly := by
  have hevaluate : ∀ source, (session.evaluate source).2.Orderly := by
    intro source
    obtain ⟨-, hsound, -, hbindings⟩ := evaluate_of_sound horderly.sound source
    exact ⟨hsound, by rw [hbindings]; exact horderly.bounded⟩
  cases question with
  | define name source =>
      rw [Session.ask]
      cases hdefine : session.define name source with
      | error e => exact horderly
      | ok next => exact horderly.define hdefine
  | evaluate source => exact hevaluate source
  | condition source => exact hevaluate source

theorem orderly_asked {session : Session} (horderly : session.Orderly)
    (questions : List Question) : (session.asked questions).Orderly := by
  induction questions generalizing session with
  | nil => exact horderly
  | cons question rest ih => exact ih (horderly.ask question)

/-- Whether no word of a text is a lag of a name. -/
def LagFree (name text : String) : Prop := ∀ word ∈ Lexeme.words text, ¬ Scope.IsLagOf name word

/-- Words mean after a definition what they mean before it with the definition written out. -/
theorem meaningOf_define {session : Session} (hbounded : session.bindings.Bounded) {name : String}
    (hname : Scope.IsName name) {definiens : String} {formula : Formula}
    (hcompile : session.compile definiens = .ok formula) (harity : formula.checkArity = .ok ())
    {words : List String} (hlags : ∀ word ∈ words, ¬ Scope.IsLagOf name word) :
    session.meaningOf (words.flatMap fun word =>
        if word = name then "(" :: Lexeme.words definiens ++ [")"] else [word]) =
      Session.meaningOf { session with bindings := session.bindings.define name formula } words := by
  have hnodes := Formula.nodesOf_inline hname hbounded
    (Formula.arrange_words_of_compile hcompile) formula hlags
  rw [meaningOf, meaningOf, hnodes]
  have hscope : scope { session with bindings := session.bindings.define name formula } =
      session.scope.define name formula := rfl
  rw [hscope]
  cases hfound : Formula.nodesOf (session.scope.define name formula) words with
  | error e => rfl
  | ok nodes =>
      refine congrArg (Except.mapError ExpressionError.evaluation) ?_
      refine session.env.meaning_inline session.bindings.formulas harity ?_ ""
      -- the other operands stand for words that are not the name, so they were there before
      intro o hmem ho number hnumber
      obtain ⟨word, hword, htoken⟩ := Formula.exists_tokenOf_of_mem_nodesOf hfound hmem
      have hne : word ≠ name := by
        rintro rfl
        rw [session.scope.tokenOf_define_self hname formula] at htoken
        cases htoken
        exact ho _ rfl
      rw [session.scope.tokenOf_define_of_ne hne (hlags word hword) formula] at htoken
      exact Scope.lt_next_of_denotes hbounded (Scope.denotes_of_tokenOf htoken) hnumber

/-- A text after a definition, and the text with the definition written out before it. -/
theorem Orderly.evaluate_define {session next : Session} (horderly : session.Orderly)
    {name : String} (hname : Scope.IsName name) {definiens : String}
    (hdefine : session.define name definiens = .ok next) {text : String}
    (hlags : LagFree name text) :
    (next.evaluate text).1.mapError ExpressionError.unplaced =
      (session.evaluate (substitute name definiens text)).1.mapError ExpressionError.unplaced := by
  obtain ⟨formula, hcompile, harity, rfl⟩ := exists_of_define hdefine
  have hsound := horderly.sound.define name formula
  rw [(evaluate_of_sound hsound text).1, (evaluate_of_sound horderly.sound _).1, meaning_unplaced,
    meaning_unplaced, words_substitute]
  exact (meaningOf_define horderly.bounded hname hcompile harity hlags).symm

/-- **A variable is its definition written out.**  Whatever a session has been asked before, a text
that uses a new definition evaluates to what it evaluates to without it, with the definition between
parentheses in the place of the name; only the places in compile errors differ.  All definitions made
before mean what they meant, those that have captured an older definition of the same name too. -/
theorem evaluate_define_eq_substitute (frame : Frame) (registry : Registry)
    (questions : List Question) {name definiens : String} {next : Session}
    (hname : Scope.IsName name)
    (hdefine : ((start frame registry).asked questions).define name definiens = .ok next) :
    let session := (start frame registry).asked questions
    (∀ text, LagFree name text →
      (next.evaluate text).1.mapError ExpressionError.unplaced =
        (session.evaluate (substitute name definiens text)).1.mapError ExpressionError.unplaced) ∧
    ∀ number < session.bindings.next,
      next.env.definition next.bindings.formulas number =
        session.env.definition session.bindings.formulas number := by
  intro session
  have horderly : session.Orderly := orderly_asked (orderly_start frame registry) questions
  refine ⟨fun text hlags => horderly.evaluate_define hname hdefine hlags, ?_⟩
  intro number hnumber
  obtain ⟨formula, -, -, rfl⟩ := exists_of_define hdefine
  exact session.env.definition_cons_of_lt formula hnumber

/-- The name `x` is defined anew through its older definition, which `y` has captured. -/
theorem evaluate_define_eq_substitute_captured :
    let questions := [.define "x" "high - low", .define "y" "x", .evaluate "x > y"]
    let session := (start threeRises .empty).asked questions
    ∃ next, Scope.IsName "x" ∧ session.define "x" "x + open" = .ok next ∧
      LagFree "x" "x * close > y" ∧ 1 < session.bindings.next ∧
      (next.evaluate "x * close > y").1.mapError ExpressionError.unplaced =
        (session.evaluate "( x + open ) * close > y").1.mapError ExpressionError.unplaced ∧
      next.env.definition next.bindings.formulas 1 =
        session.env.definition session.bindings.formulas 1 := by
  intro questions session
  have hname : Scope.IsName "x" :=
    ⟨by decide, Scope.solid_of_all (by decide), by decide +kernel, by decide, by decide, by decide,
      by decide⟩
  have hdefined : (session.define "x" "x + open").toBool = true := by decide +kernel
  have hlags : LagFree "x" "x * close > y" := by
    have hnone : ∀ word ∈ Lexeme.words "x * close > y",
        Scope.lagParts? word.toList = none := by decide +kernel
    rintro word hword ⟨periods, hparts⟩
    rw [hnone word hword] at hparts
    cases hparts
  have hcaptured : 1 < session.bindings.next := by decide +kernel
  have hsubstitute : substitute "x" "x + open" "x * close > y" = "( x + open ) * close > y" := by
    decide +kernel
  obtain ⟨next, hdefine⟩ := exists_of_toBool hdefined
  have h := evaluate_define_eq_substitute threeRises .empty questions hname hdefine
  refine ⟨next, hname, hdefine, hlags, hcaptured, ?_, h.2 1 hcaptured⟩
  rw [← hsubstitute]
  exact h.1 _ hlags

end Session

end Screener
