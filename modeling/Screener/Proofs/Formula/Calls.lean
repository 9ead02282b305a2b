import Mathlib.Algebra.BigOperators.Group.Finset.Basic
import Mathlib.Algebra.GroupWithZero.Nat
import Screener.Proofs.Formula.Recall
import Screener.Proofs.Formula.Sharing

/-!
# How often indicators are called

When no evaluation fails, every text that is evaluated makes its own calls, and every definition
that the texts refer to, however far, makes its calls once (`Session.calls_of_asked`).

## Strategy

`Tally` says what nodes leave behind when they are reduced: which definitions have been reduced,
and how many calls have been made for the nodes and for these definitions.  It holds of nodes one
after the other if it holds of each of them (`Tally.append`), so it is proved of a reduction along
its nodes (`along_tallies`), of a reference by induction on the definitions and of a dialogue by
induction on the questions.  A definition is never reduced while it is being reduced, because what
it refers to is earlier.
-/

namespace Screener

/-- The number of calls among nodes, of those that are counted. -/
def callsIn (counted : Call → Bool) (nodes : List Node) : Nat := (callsAmong nodes).countP counted

/-- The number of calls in the nodes of a numbered definition. -/
def callsOf (counted : Call → Bool) (definitions : List Formula) (number : Nat) : Nat :=
  callsIn counted (nodesOf definitions number)

/-- Whether nodes refer to a definition, directly or through other definitions. -/
def RefersTo (definitions : List Formula) (nodes : List Node) (number : Nat) : Prop :=
  ∃ o, Reaches definitions nodes o ∧ o.definition? = some number

variable {definitions : List Formula} {nodes rest : List Node}

theorem callsIn_append (counted : Call → Bool) (nodes rest : List Node) :
    callsIn counted (nodes ++ rest) = callsIn counted nodes + callsIn counted rest := by
  rw [callsIn, callsAmong_append, List.countP_append]
  rfl

theorem callsIn_flatMap (counted : Call → Bool) (formulas : List Formula) :
    callsIn counted (formulas.flatMap Formula.nodes) =
      (formulas.map fun formula => callsIn counted formula.nodes).sum := by
  induction formulas with
  | nil => rfl
  | cons formula rest ih => rw [List.flatMap_cons, callsIn_append, ih, List.map_cons, List.sum_cons]

theorem callsIn_operand (counted : Call → Bool) (o : Operand) :
    callsIn counted [.operand o] = o.call?.toList.countP counted := by
  cases o <;> rfl

/-- A reference to a definition is no call. -/
theorem callsIn_of_definition? (counted : Call → Bool) {o : Operand} {number : Nat}
    (hnumber : o.definition? = some number) : callsIn counted [.operand o] = 0 := by
  cases o with
  | reference name other => rfl
  | lag name periods other => rfl
  | _ => cases hnumber

theorem Reaches.mono {o : Operand} (hreaches : Reaches definitions nodes o)
    (hnodes : nodes ⊆ rest) : Reaches definitions rest o := by
  cases hreaches with
  | here hmem => exact .here (hnodes hmem)
  | through hmem hnumber hformula hlater =>
      exact .through (hnodes hmem) hnumber hformula hlater

theorem RefersTo.mono {number : Nat} (hrefers : RefersTo definitions nodes number)
    (hnodes : nodes ⊆ rest) : RefersTo definitions rest number := by
  obtain ⟨o, hreaches, hnumber⟩ := hrefers
  exact ⟨o, hreaches.mono hnodes, hnumber⟩

/-- Formulas refer to what one of them refers to. -/
theorem refersTo_flatMap_iff {formulas : List Formula} {number : Nat} :
    RefersTo definitions (formulas.flatMap Formula.nodes) number ↔
      ∃ formula ∈ formulas, RefersTo definitions formula.nodes number := by
  constructor
  · rintro ⟨o, hreaches, hnumber⟩
    cases hreaches with
    | here hmem =>
        obtain ⟨formula, hformula, hnode⟩ := List.mem_flatMap.mp hmem
        exact ⟨formula, hformula, o, .here hnode, hnumber⟩
    | through hmem hother hdefinition hlater =>
        obtain ⟨formula, hformula, hnode⟩ := List.mem_flatMap.mp hmem
        exact ⟨formula, hformula, o, .through hnode hother hdefinition hlater, hnumber⟩
  · rintro ⟨formula, hformula, hrefers⟩
    exact hrefers.mono fun node hnode => List.mem_flatMap.mpr ⟨formula, hformula, hnode⟩

/-! ## What nodes leave behind -/

namespace Progress

/-- Whether what definitions refer to has been reduced whenever they have. -/
def Closed (definitions : List Formula) (progress : Progress) : Prop :=
  ∀ number ∈ progress.reduced, ∀ formula, definitions.reverse[number]? = some formula →
    ∀ o, .operand o ∈ formula.nodes → ∀ other, o.definition? = some other →
      other ∈ progress.reduced

/-- The number of calls in the definitions that have been reduced. -/
def callsReduced (counted : Call → Bool) (definitions : List Formula) (progress : Progress) : Nat :=
  (progress.reduced.map (callsOf counted definitions)).sum

end Progress

/-- What nodes leave behind when they are reduced. -/
structure Tally (definitions : List Formula) (nodes : List Node) (before after : Progress) :
    Prop where
  kept : before.reduced ⊆ after.reduced
  nodup (hnodup : before.reduced.Nodup) : after.reduced.Nodup
  closed (hclosed : before.Closed definitions) : after.Closed definitions
  /-- What the nodes refer to has been reduced. -/
  direct {o : Operand} (hmem : .operand o ∈ nodes) {number : Nat}
    (hnumber : o.definition? = some number) : number ∈ after.reduced
  /-- Nothing else has been reduced that was not before. -/
  new {number : Nat} (hmem : number ∈ after.reduced) :
    number ∈ before.reduced ∨ RefersTo definitions nodes number
  /-- The calls that have been made are those of the nodes and of the definitions that have been
  reduced meanwhile. -/
  calls (counted : Call → Bool) :
    after.calls.countP counted + before.callsReduced counted definitions =
      before.calls.countP counted + callsIn counted nodes + after.callsReduced counted definitions

namespace Tally

variable {before between after : Progress}

/-- Nodes that are no calls and refer only to what has been reduced leave nothing behind. -/
theorem silent (hcalls : ∀ counted, callsIn counted nodes = 0)
    (hdirect : ∀ o, .operand o ∈ nodes → ∀ number, o.definition? = some number →
      number ∈ before.reduced) : Tally definitions nodes before before where
  kept := List.Subset.refl _
  nodup := id
  closed := id
  direct := fun hmem _ hnumber => hdirect _ hmem _ hnumber
  new := .inl
  calls := fun counted => by rw [hcalls counted, Nat.add_zero]

theorem append (hfirst : Tally definitions nodes before between)
    (hrest : Tally definitions rest between after) :
    Tally definitions (nodes ++ rest) before after where
  kept := fun _ hmem => hrest.kept (hfirst.kept hmem)
  nodup := fun hnodup => hrest.nodup (hfirst.nodup hnodup)
  closed := fun hclosed => hrest.closed (hfirst.closed hclosed)
  direct := by
    intro o hmem number hnumber
    rcases List.mem_append.mp hmem with hmem | hmem
    · exact hrest.kept (hfirst.direct hmem hnumber)
    · exact hrest.direct hmem hnumber
  new := by
    intro number hmem
    rcases hrest.new hmem with hbetween | hrefers
    · rcases hfirst.new hbetween with hbefore | hrefers
      · exact .inl hbefore
      · exact .inr (hrefers.mono (List.subset_append_left nodes rest))
    · exact .inr (hrefers.mono (List.subset_append_right nodes rest))
  calls := by
    intro counted
    have hcallsFirst := hfirst.calls counted
    have hcallsRest := hrest.calls counted
    rw [callsIn_append]
    omega

/-- An operand that refers to no definition is recorded if it is a call. -/
theorem leaf {o : Operand} (hnone : o.definition? = none) (progress : Progress) :
    Tally definitions [.operand o] progress
      { progress with calls := o.call?.toList ++ progress.calls } where
  kept := List.Subset.refl _
  nodup := id
  closed := id
  direct := by
    intro p hmem number hnumber
    cases List.mem_singleton.mp hmem
    rw [hnone] at hnumber
    cases hnumber
  new := .inl
  calls := by
    intro counted
    rw [callsIn_operand, List.countP_append, Nat.add_comm (o.call?.toList.countP counted)]
    rfl

/-- A reference to a definition that has not been reduced leaves behind what the nodes of the
definition do, and the definition itself. -/
theorem reference {o : Operand} {number : Nat} (hnumber : o.definition? = some number)
    {formula : Formula} (hformula : definitions.reverse[number]? = some formula)
    (htally : Tally definitions formula.nodes before after) (hnew : number ∉ after.reduced)
    (series : Series) :
    Tally definitions [.operand o] before
      { after with found := (number, series) :: after.found } where
  kept := fun _ hmem => List.mem_cons_of_mem _ (htally.kept hmem)
  nodup := fun hnodup => List.nodup_cons.mpr ⟨hnew, htally.nodup hnodup⟩
  closed := by
    intro hclosed other hother formula' hformula' p hmem inner hinner
    refine List.mem_cons_of_mem _ ?_
    rcases List.mem_cons.mp hother with rfl | hother
    · cases hformula.symm.trans hformula'
      exact htally.direct hmem hinner
    · exact htally.closed hclosed other hother formula' hformula' p hmem inner hinner
  direct := by
    intro p hmem other hother
    cases List.mem_singleton.mp hmem
    cases hnumber.symm.trans hother
    exact List.mem_cons_self
  new := by
    intro other hother
    have hmem : Node.operand o ∈ [Node.operand o] := List.mem_singleton_self _
    rcases List.mem_cons.mp hother with rfl | hother
    · exact .inr ⟨o, .here hmem, hnumber⟩
    · refine (htally.new hother).imp_right fun ⟨p, hreaches, hp⟩ => ?_
      exact ⟨p, .through hmem hnumber hformula hreaches, hp⟩
  calls := by
    intro counted
    have hcalls := htally.calls counted
    have hadded : Progress.callsReduced counted definitions
        { after with found := (number, series) :: after.found } =
          callsIn counted formula.nodes + after.callsReduced counted definitions := by
      simp [Progress.callsReduced, Progress.reduced, callsOf, nodesOf_of_getElem? hformula]
    rw [callsIn_of_definition? counted hnumber, hadded]
    show after.calls.countP counted + _ = _
    omega

end Tally

namespace Evaluation

variable {α β : Type}

/-- Whenever the computation ends with a value, it leaves behind what the nodes do. -/
def Tallies (definitions : List Formula) (nodes : List Node) (computation : Evaluation α) : Prop :=
  ∀ before value after, computation.run.run before = (.ok value, after) →
    Tally definitions nodes before after

namespace Tallies

/-- A value is given without calls. -/
theorem silent (hcalls : ∀ counted, callsIn counted nodes = 0) (hnone : ∀ o, .operand o ∉ nodes)
    (value : α) : Tallies definitions nodes (Pure.pure value) := by
  intro before value after hrun
  cases hrun
  exact .silent hcalls fun o hmem => absurd hmem (hnone o)

theorem bind {first : Evaluation α} {next : α → Evaluation β}
    (hfirst : Tallies definitions nodes first)
    (hnext : ∀ value, Tallies definitions rest (next value)) :
    Tallies definitions (nodes ++ rest) (first >>= next) := by
  intro before value after hrun
  obtain ⟨reached, between, hbetween, hrest⟩ := exists_of_run_bind_eq_ok hrun
  exact (hfirst _ _ _ hbetween).append (hnext _ _ _ _ hrest)

end Tallies

end Evaluation

open Evaluation (Tallies)

/-! ## Reductions -/

variable {env : Environment}

/-- The steps of a reduction leave behind what its nodes do if its operands do. -/
theorem along_tallies (definitions : List Formula) :
    Along fun α nodes (computation : Evaluation α) => Tallies definitions nodes computation where
  pure := .silent (fun _ => rfl) nofun
  operator op := .silent (fun _ => rfl) nofun
  throw nodes e := by
    intro before value after hrun
    cases hrun
  bind hfirst hnext := hfirst.bind hnext

/-- An operand leaves behind what a reference to its definition does, if it has one. -/
theorem tallies_series {definition : Nat → Evaluation Series} {o : Operand}
    (hdefinition : ∀ number, o.definition? = some number →
      Tallies definitions [.operand o] (definition number)) :
    Tallies definitions [.operand o] (o.series env env.makeCall definition) := by
  have hleaf : o.definition? = none →
      Tallies definitions [.operand o] (o.series env env.makeCall definition) := by
    intro hnone before series after hrun
    rw [Operand.run_series hnone definition fun _ => .ok default] at hrun
    cases congrArg Prod.snd hrun
    exact .leaf hnone before
  have halong := along_tallies definitions
  have hcheck (series : Series) :
      Tallies definitions [] (settle (env.checkLength series) : Evaluation Series) :=
    halong.settle halong.pure _
  cases o with
  | literal value => exact hleaf rfl
  | column name => exact hleaf rfl
  | call c => exact hleaf rfl
  | reference name number => exact (hdefinition number rfl).bind hcheck
  | lag name periods number =>
      have hshifted : Tallies definitions [.operand (.lag name periods number)]
          (definition number >>= fun series => Pure.pure (series.shift periods)) :=
        (hdefinition number rfl).bind fun series => halong.pure _
      exact hshifted.bind hcheck

theorem tallies_seriesOf {registry : Registry} (hgrounded : Grounded registry definitions)
    (later : List Formula) {earlier : List Formula} (hdefinitions : later ++ earlier = definitions)
    {o : Operand} {number : Nat} (hnumber : o.definition? = some number) :
    Tallies definitions [.operand o] (env.seriesOf earlier number) := by
  induction earlier generalizing later number o with
  | nil => exact (along_tallies definitions).throw _ _
  | cons formula earlier ih =>
      have hsplit := (List.append_cons later formula earlier).symm.trans hdefinitions
      unfold Environment.seriesOf
      split
      · next hlatest =>
        have hformula := getElem?_reverse_of_append hdefinitions
        rw [← hlatest] at hformula
        have hreduce : Tallies definitions formula.nodes
            (reduce (Operand.series env env.makeCall (env.seriesOf earlier)) formula.nodes []) := by
          refine (along_tallies definitions).reduce (fun p hmem => tallies_series fun other hother => ?_) []
          exact ih _ hsplit hother
        intro before series after hrun
        rw [Evaluation.run_get_bind] at hrun
        cases hlookup : before.found.lookup number with
        | some remembered =>
            rw [hlookup] at hrun
            cases hrun
            refine .silent (callsIn_of_definition? · hnumber) fun p hmem other hother => ?_
            cases List.mem_singleton.mp hmem
            cases hnumber.symm.trans hother
            exact Progress.mem_reduced_of_lookup hlookup
        | none =>
            rw [hlookup] at hrun
            obtain ⟨found, between, hbetween, hkept⟩ := Evaluation.exists_of_run_bind_eq_ok hrun
            have htally := hreduce _ _ _ hbetween
            cases hkept
            refine .reference hnumber hformula htally (fun hmem => ?_) series
            -- the definition is neither remembered nor referred to by its own nodes
            rcases htally.new hmem with hbefore | ⟨p, hreaches, hp⟩
            · exact Progress.not_mem_reduced_of_lookup hlookup hbefore
            · have havailable := hgrounded.available_of_reaches
                (fun q hq => hgrounded.available_of_getElem? hformula hq) hreaches
              exact Nat.lt_irrefl _ (havailable.lt hp)
      · exact ih _ hsplit hnumber

theorem tallies_evaluate (env : Environment) {registry : Registry}
    (hgrounded : Grounded registry definitions) {earlier : List Formula}
    (hearlier : earlier <:+ definitions) (formula : Formula) :
    Tallies definitions formula.nodes (env.evaluate earlier formula) := by
  obtain ⟨later, hdefinitions⟩ := hearlier
  refine (along_tallies definitions).reduce (fun o hmem => tallies_series fun number hnumber => ?_) []
  exact tallies_seriesOf hgrounded later hdefinitions hnumber

/-! ## Dialogues -/

/-- Whether a question asks for an evaluation. -/
def Question.evaluates : Question → Bool
  | .define _ _ => false
  | .evaluate _ | .condition _ => true

namespace Session

/-- Whether all evaluations among questions succeed; definitions may fail. -/
def succeeds (session : Session) : List Question → Bool
  | [] => true
  | question :: rest =>
    (!question.evaluates || (session.ask question).1.toBool) &&
      (session.ask question).2.succeeds rest

theorem tally_evaluate {registry : Registry} (hgrounded : Grounded registry definitions)
    {session : Session} (hformulas : session.bindings.formulas <:+ definitions) {source : String}
    {series : Series} (hresult : (session.evaluate source).1 = .ok series) :
    Tally definitions ((session.compile source).toOption.toList.flatMap Formula.nodes)
      session.progress (session.evaluate source).2.progress := by
  rw [evaluate] at hresult ⊢
  cases hcompile : session.compile source with
  | error e =>
      rw [hcompile] at hresult
      cases hresult
  | ok formula =>
      rw [hcompile] at hresult
      have hok : (session.evaluateFormula formula).1 = .ok series := mapError_eq_ok hresult
      have hnodes : (Except.ok (ε := CompileError) formula).toOption.toList.flatMap Formula.nodes =
          formula.nodes := List.append_nil formula.nodes
      rw [hnodes]
      exact tallies_evaluate session.env hgrounded hformulas formula session.progress series _
        (Prod.ext hok rfl)

theorem tally_ask {registry : Registry} (hgrounded : Grounded registry definitions)
    {session : Session} (hformulas : session.bindings.formulas <:+ definitions)
    {question : Question}
    (hsucceeds : (!question.evaluates || (session.ask question).1.toBool) = true) :
    Tally definitions ((session.evaluatedBy question).toList.flatMap Formula.nodes)
      session.progress (session.ask question).2.progress := by
  cases question with
  | define name source =>
      rw [progress_ask_define]
      exact .silent (fun _ => rfl) nofun
  | evaluate source =>
      obtain ⟨answer, hanswer⟩ := exists_of_toBool hsucceeds
      obtain ⟨series, hresult, -⟩ := map_eq_ok hanswer
      exact tally_evaluate hgrounded hformulas hresult
  | condition source =>
      obtain ⟨answer, hanswer⟩ := exists_of_toBool hsucceeds
      obtain ⟨mask, hmask, -⟩ := map_eq_ok hanswer
      obtain ⟨series, hresult, -⟩ := bind_eq_ok hmask
      exact tally_evaluate hgrounded hformulas hresult

/-- Questions whose evaluations succeed leave behind what the formulas do that they evaluate. -/
theorem tally_asked {registry : Registry} (hgrounded : Grounded registry definitions)
    {session : Session} {questions : List Question}
    (hformulas : (session.asked questions).bindings.formulas <:+ definitions)
    (hsucceeds : session.succeeds questions = true) :
    Tally definitions ((session.evaluated questions).flatMap Formula.nodes) session.progress
      (session.asked questions).progress := by
  induction questions generalizing session with
  | nil => exact .silent (fun _ => rfl) nofun
  | cons question rest ih =>
      rw [succeeds, Bool.and_eq_true] at hsucceeds
      have hcontinues := session.continues_asked (question :: rest)
      rw [evaluated, List.flatMap_append]
      exact (tally_ask hgrounded (hcontinues.formulas.trans hformulas) hsucceeds.1).append
        (ih hformulas hsucceeds.2)

end Session

/-! ## From the beginning -/

namespace Tally

variable {after : Progress}

/-- If nothing has been reduced before, exactly those definitions have been afterwards that the
nodes refer to. -/
theorem mem_reduced_iff (htally : Tally definitions nodes {} after) {number : Nat} :
    number ∈ after.reduced ↔ RefersTo definitions nodes number := by
  constructor
  · intro hmem
    exact (htally.new hmem).resolve_left nofun
  · rintro ⟨o, hreaches, hnumber⟩
    have hclosed := htally.closed nofun
    have hdirect : ∀ p, .operand p ∈ nodes → ∀ other, p.definition? = some other →
        other ∈ after.reduced := fun p hmem other hother => htally.direct hmem hother
    clear htally
    induction hreaches with
    | here hmem => exact hdirect _ hmem number hnumber
    | through hmem hother hformula _ ih =>
        exact ih hnumber (hclosed _ (hdirect _ hmem _ hother) _ hformula)

end Tally

namespace Session

/-- **What is shared is called once.**  A definition that has been reduced is never called for again
and has made each of its calls once, whatever is asked and whether or not evaluations fail, and what
it was does not matter any more.  Definitions make no calls, and if all evaluations succeed, then
every evaluation makes the calls of its text, and every definition that the texts refer to makes its
own calls once. -/
theorem calls_of_asked (frame : Frame) (registry : Registry) (questions : List Question) :
    let session := (start frame registry).asked questions
    let evaluated := (start frame registry).evaluated questions
    let events := (start frame registry).events [] questions
    Shares session.bindings.formulas evaluated session.progress events ∧
    session.Recalls ∧
    (∀ name source, (session.ask (.define name source)).2.progress = session.progress) ∧
    ((start frame registry).succeeds questions = true →
      ∃ reached : Finset Nat,
        (∀ number, number ∈ reached ↔
          ∃ formula ∈ evaluated, RefersTo session.bindings.formulas formula.nodes number) ∧
        ∀ counted : Call → Bool, session.progress.calls.countP counted =
          (evaluated.map fun formula => callsIn counted formula.nodes).sum +
            ∑ number ∈ reached, callsOf counted session.bindings.formulas number) := by
  intro session evaluated events
  refine ⟨shares_asked frame registry questions, session.recalls, session.progress_ask_define,
    fun hsucceeds => ?_⟩
  have hgrounded : session.IsGrounded := isGrounded_start_asked frame registry questions
  have htally : Tally session.bindings.formulas (evaluated.flatMap Formula.nodes) {}
      session.progress := tally_asked hgrounded List.suffix_rfl hsucceeds
  refine ⟨session.progress.reduced.toFinset, fun number => ?_, fun counted => ?_⟩
  · rw [List.mem_toFinset, htally.mem_reduced_iff, refersTo_flatMap_iff]
  · have hcalls := htally.calls counted
    have hnodup : session.progress.reduced.Nodup := htally.nodup List.nodup_nil
    rw [List.sum_toFinset _ hnodup, ← callsIn_flatMap]
    have hnone : Progress.callsReduced counted session.bindings.formulas {} = 0 := rfl
    rw [hnone, List.countP_nil, Nat.zero_add, Nat.add_zero] at hcalls
    exact hcalls

/-- Three names share a call, one of them has another definition with two calls later on, and one
text makes a call itself.  Two texts fail, but not before they have made all that they share. -/
theorem calls_of_asked_sharing :
    let registry := (Registry.empty.register "counted" fun frame _ =>
      .ok (frame.closes.map some)).register "broken" fun _ _ => .error (.arity 1 0)
    let questions : List Question :=
      [.define "a" "counted()", .define "b" "a + a.shift(1)", .define "c" "b + b",
        .evaluate "c > a", .define "a" "counted() + counted()", .condition "c + b > a",
        .evaluate "counted() - c"]
    let torn : List Question :=
      [.define "a" "counted()", .evaluate "a + broken()", .evaluate "a.shift(1) + a",
        .condition "a + broken() > a"]
    let session := (start threeRises registry).asked questions
    let evaluated := (start threeRises registry).evaluated questions
    let stopped := (start threeRises registry).asked torn
    let events := (start threeRises registry).events [] torn
    let counted (c : Call) : Bool := c.name == "counted"
    (start threeRises registry).succeeds questions = true ∧
      session.progress.calls.countP counted = 4 ∧
      (∃ reached : Finset Nat,
        (∀ number, number ∈ reached ↔
          ∃ formula ∈ evaluated, RefersTo session.bindings.formulas formula.nodes number) ∧
        (evaluated.map fun formula => callsIn counted formula.nodes).sum +
          ∑ number ∈ reached, callsOf counted session.bindings.formulas number = 4) ∧
      (start threeRises registry).succeeds torn = false ∧
      stopped.progress.calls.countP counted = 1 ∧ stopped.progress.reduced = [0] ∧
      .reduced 0 ∈ events ∧
      (callsFor (some 0) events).reverse = callsAmong (nodesOf stopped.bindings.formulas 0) := by
  intro registry questions torn session evaluated stopped events counted
  have hsucceeds : (start threeRises registry).succeeds questions = true := by decide +kernel
  have hfour : session.progress.calls.countP counted = 4 := by decide +kernel
  have hfails : (start threeRises registry).succeeds torn = false := by decide +kernel
  have hone : stopped.progress.calls.countP counted = 1 := by decide +kernel
  have hreduced : stopped.progress.reduced = [0] := by decide +kernel
  obtain ⟨-, -, -, hcalls⟩ := calls_of_asked threeRises registry questions
  obtain ⟨reached, hreached, hcounted⟩ := hcalls hsucceeds
  obtain ⟨hshares, -⟩ := calls_of_asked threeRises registry torn
  have hevent : .reduced 0 ∈ events := by
    rw [hshares.reduced, hreduced]
    exact List.mem_singleton_self 0
  exact ⟨hsucceeds, hfour, ⟨reached, hreached, (hcounted counted).symm.trans hfour⟩, hfails, hone,
    hreduced, hevent, hshares.once 0 hevent⟩

end Session

end Screener
