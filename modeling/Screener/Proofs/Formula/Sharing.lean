import Screener.Proofs.Formula.Availability
import Screener.Proofs.Formula.Dialogue
import Screener.Proofs.Formula.Owners

/-!
# What is shared is reduced once

A definition that has been reduced is never called for again, and each of its calls has been made
exactly once, whatever a session is asked and even if an evaluation has failed in between
(`Session.shares_asked`).

## Strategy

The chronicle of a dialogue is looked at with one definition in mind.  Whatever happens for texts and
for other definitions leaves it settled (`Settled.cons`).  When it is reduced itself, it has not been
before, and its nodes make its calls.  If they fail, then they fail whenever they are reduced, because
a definition has one meaning on a frame (`Settled.fail`); so when they succeed, it is at the first
attempt (`Settled.reduce`).
-/

namespace Screener

namespace Progress

/-- The numbers of the definitions that have been reduced. -/
def reduced (progress : Progress) : List Nat := progress.found.map Prod.fst

theorem mem_reduced_of_lookup {progress : Progress} {number : Nat} {series : Series}
    (hlookup : progress.found.lookup number = some series) : number ∈ progress.reduced := by
  obtain ⟨before, after, hfound, -⟩ := List.lookup_eq_some_iff.mp hlookup
  rw [reduced, hfound]
  simp

theorem not_mem_reduced_of_lookup {progress : Progress} {number : Nat}
    (hlookup : progress.found.lookup number = none) : number ∉ progress.reduced := by
  intro hmem
  obtain ⟨entry, hentry, rfl⟩ := List.mem_map.mp hmem
  simpa using List.lookup_eq_none_iff.mp hlookup entry hentry

end Progress

/-- The nodes of a numbered definition; there are none if it has not been made. -/
def nodesOf (definitions : List Formula) (number : Nat) : List Node :=
  (definitions.reverse[number]?.map Formula.nodes).getD []

theorem nodesOf_of_getElem? {definitions : List Formula} {number : Nat} {formula : Formula}
    (hformula : definitions.reverse[number]? = some formula) :
    nodesOf definitions number = formula.nodes := by
  rw [nodesOf, hformula]
  rfl

open Chronicled (Preserves)

variable {env : Environment}

/-! ## One definition -/

/-- What has happened to a numbered definition. -/
structure Settled (env : Environment) (definitions : List Formula) (number : Nat)
    (events : List Event) : Prop where
  /-- The calls that have been made for it stand in its nodes. -/
  stands : ∀ c ∈ callsFor (some number) events, c ∈ callsAmong (nodesOf definitions number)
  /-- As long as it has not been reduced, calls have been made for it in vain only. -/
  untried (hreduced : .reduced number ∉ events) {series : Series}
    (hmeans : env.definition definitions number = .ok series) :
    callsFor (some number) events = []
  /-- Once it has been reduced, all its calls have been made, each of them once. -/
  once (hreduced : .reduced number ∈ events) :
    (callsFor (some number) events).reverse = callsAmong (nodesOf definitions number)
  /-- Nothing happens to it any more once it has been reduced. -/
  last : events.Pairwise fun later earlier =>
    earlier = .reduced number → later.definition? ≠ some number

namespace Settled

variable {definitions : List Formula} {number : Nat} {events added : List Event}

theorem start (env : Environment) (definitions : List Formula) (number : Nat) :
    Settled env definitions number [] where
  stands := nofun
  untried _ _ _ := rfl
  once := nofun
  last := .nil

/-- What happens elsewhere does not matter. -/
theorem cons (hsettled : Settled env definitions number events) {event : Event}
    (hevent : event.definition? ≠ some number) :
    Settled env definitions number (event :: events) := by
  have hcalls : callsFor (some number) (event :: events) = callsFor (some number) events := by
    rw [callsFor, List.filterMap_cons, Event.callFor?, if_neg hevent]
    rfl
  have hreduced : .reduced number ∈ event :: events ↔ .reduced number ∈ events := by
    refine List.mem_cons.trans (or_iff_right ?_)
    rintro rfl
    exact hevent rfl
  constructor
  · rw [hcalls]
    exact hsettled.stands
  · rw [hcalls, hreduced]
    exact hsettled.untried
  · rw [hcalls, hreduced]
    exact hsettled.once
  · exact List.pairwise_cons.mpr ⟨fun _ _ _ => hevent, hsettled.last⟩

/-- Without a definition being reduced there is nothing that must not happen afterwards. -/
private theorem pairwise_of_not_mem (hevents : .reduced number ∉ events) :
    events.Pairwise fun later earlier =>
      earlier = .reduced number → later.definition? ≠ some number := by
  refine List.pairwise_of_forall_mem_list fun later _ earlier hearlier => ?_
  rintro rfl
  exact absurd hearlier hevents

private theorem stands_append (hsettled : Settled env definitions number events)
    (hadded : (callsFor (some number) added).reverse <+: callsAmong (nodesOf definitions number)) :
    ∀ c ∈ callsFor (some number) (added ++ events),
      c ∈ callsAmong (nodesOf definitions number) := by
  intro c hc
  rw [callsFor_append, List.mem_append] at hc
  rcases hc with hc | hc
  · exact hadded.subset (List.mem_reverse.mpr hc)
  · exact hsettled.stands c hc

/-- A definition without a meaning is reduced in vain. -/
theorem fail (hsettled : Settled env definitions number events)
    (hevents : .reduced number ∉ events) (hadded : .reduced number ∉ added)
    (hcalls : (callsFor (some number) added).reverse <+: callsAmong (nodesOf definitions number))
    {e : EvaluationError} (hmeans : env.definition definitions number = .error e) :
    Settled env definitions number (added ++ events) := by
  have hnone : .reduced number ∉ added ++ events := by
    rw [List.mem_append]
    exact not_or_intro hadded hevents
  constructor
  · exact hsettled.stands_append hcalls
  · intro _ series hvalue
    rw [hmeans] at hvalue
    cases hvalue
  · exact fun hreduced => absurd hreduced hnone
  · exact pairwise_of_not_mem hnone

/-- A definition with a meaning is reduced at the first attempt. -/
theorem reduce (hsettled : Settled env definitions number events)
    (hevents : .reduced number ∉ events) (hadded : .reduced number ∉ added)
    (hcalls : (callsFor (some number) added).reverse = callsAmong (nodesOf definitions number))
    {series : Series} (hmeans : env.definition definitions number = .ok series) :
    Settled env definitions number (.reduced number :: (added ++ events)) := by
  have hnone : .reduced number ∉ added ++ events := by
    rw [List.mem_append]
    exact not_or_intro hadded hevents
  have hall : callsFor (some number) (.reduced number :: (added ++ events)) =
      callsFor (some number) added := by
    have huntried := hsettled.untried hevents hmeans
    rw [callsFor_reduced, callsFor_append, huntried, List.append_nil]
  constructor
  · rw [hall, ← hcalls]
    exact fun c hc => List.mem_reverse.mpr hc
  · exact fun hreduced => absurd List.mem_cons_self hreduced
  · intro _
    rw [hall, hcalls]
  · refine List.pairwise_cons.mpr ⟨?_, pairwise_of_not_mem hnone⟩
    rintro earlier hearlier rfl
    exact absurd hearlier hnone

end Settled

/-! ## What is written down is what is remembered -/

/-- The events of a chronicle are what has been called and found. -/
structure Chronicle.Records (chronicle : Chronicle) : Prop where
  calls : chronicle.events.filterMap Event.call? = chronicle.progress.calls
  reduced (number : Nat) :
    .reduced number ∈ chronicle.events ↔ number ∈ chronicle.progress.reduced

namespace Chronicle.Records

variable {chronicle : Chronicle}

theorem start : Records ⟨{}, []⟩ where
  calls := rfl
  reduced _ := iff_of_false List.not_mem_nil List.not_mem_nil

theorem call (hrecords : chronicle.Records) (owner : Option Nat) (c : Call) :
    Records ⟨{ chronicle.progress with calls := c :: chronicle.progress.calls },
      .call owner c :: chronicle.events⟩ where
  calls := congrArg (c :: ·) hrecords.calls
  reduced number := by
    rw [List.mem_cons, hrecords.reduced]
    exact or_iff_right nofun

theorem keep (hrecords : chronicle.Records) (number : Nat) (series : Series) :
    Records ⟨{ chronicle.progress with found := (number, series) :: chronicle.progress.found },
      .reduced number :: chronicle.events⟩ where
  calls := hrecords.calls
  reduced other := by
    rw [List.mem_cons, hrecords.reduced, Event.reduced.injEq]
    exact List.mem_cons.symm

end Chronicle.Records

theorem records_chronicledSeries (definitions : List Formula) (number : Nat) :
    Preserves Chronicle.Records (env.chronicledSeries definitions number) := by
  induction definitions generalizing number with
  | nil => exact fun _ hrecords => hrecords
  | cons formula earlier ih =>
      unfold Environment.chronicledSeries
      split
      · have hreduce : Preserves Chronicle.Records
            (reduce (Operand.series env (env.makeCallFor (some number))
              (env.chronicledSeries earlier)) formula.nodes []) := by
          refine Chronicled.preserves_reduce env (fun c => ?_) ih formula.nodes
          exact Chronicled.preserves_makeCallFor env fun chronicle hrecords => hrecords.call _ c
        intro chronicle hrecords
        rw [Chronicled.run_get_bind]
        cases chronicle.progress.found.lookup number with
        | some series => exact hrecords
        | none =>
            refine hreduce.bind (fun series => ?_) chronicle hrecords
            exact fun chronicle hrecords => hrecords.keep number series
      · exact ih number

/-- What a computation with a chronicle gives and remembers, if it is known without. -/
theorem Gives.chronicled {definitions : List Formula} {α : Type} {chronicled : Chronicled α}
    {plain : Evaluation α} {result : Except EvaluationError α}
    (hgives : Gives env definitions plain result) (hfollows : Chronicled.Follows chronicled plain)
    {chronicle : Chronicle} (hsound : chronicle.progress.Sound env definitions) :
    (chronicled.run.run chronicle).1 = result ∧
      (chronicled.run.run chronicle).2.progress.Sound env definitions := by
  obtain ⟨hresult, hprogress⟩ := hfollows chronicle
  obtain ⟨hgiven, hleft⟩ := hgives chronicle.progress hsound
  exact ⟨hresult.trans hgiven, hprogress ▸ hleft⟩

/-- A chronicle that is right about what is remembered and about one definition. -/
structure Chronicle.Proper (env : Environment) (definitions : List Formula) (number : Nat)
    (chronicle : Chronicle) : Prop where
  sound : chronicle.progress.Sound env definitions
  records : chronicle.Records
  settled : Settled env definitions number chronicle.events

theorem Chronicle.Proper.call {definitions : List Formula} {number : Nat} {chronicle : Chronicle}
    (hproper : chronicle.Proper env definitions number) {owner : Option Nat}
    (howner : owner ≠ some number) (c : Call) :
    Proper env definitions number
      ⟨{ chronicle.progress with calls := c :: chronicle.progress.calls },
        .call owner c :: chronicle.events⟩ where
  sound := hproper.sound
  records := hproper.records.call owner c
  settled := hproper.settled.cons howner

/-- The nodes of a definition that is reduced make its calls, and it is settled afterwards. -/
theorem settled_attempt {definitions later earlier : List Formula} {formula : Formula}
    (hdefinitions : later ++ formula :: earlier = definitions) {chronicle reached : Chronicle}
    (hproper : chronicle.Proper env definitions earlier.length)
    (hlookup : chronicle.progress.found.lookup earlier.length = none)
    {result : Except EvaluationError Series}
    (hrun : (reduce (Operand.series env (env.makeCallFor (some earlier.length))
      (env.chronicledSeries earlier)) formula.nodes []).run.run chronicle = (result, reached)) :
    (∀ series, result = .ok series →
      Settled env definitions earlier.length (.reduced earlier.length :: reached.events)) ∧
    ∀ e, result = .error e → Settled env definitions earlier.length reached.events := by
  have hnodes : nodesOf definitions earlier.length = formula.nodes :=
    nodesOf_of_getElem? (getElem?_reverse_of_append hdefinitions)
  have hevents : .reduced earlier.length ∉ chronicle.events :=
    fun hmem => Progress.not_mem_reduced_of_lookup hlookup ((hproper.records.reduced _).mp hmem)
  have hsplit := (List.append_cons later formula earlier).symm.trans hdefinitions
  have hgives := (gives_reduce (gives_seriesOf _ hsplit) formula.nodes).chronicled
    (follows_reduce env (follows_chronicledSeries env earlier) (some earlier.length) formula.nodes)
    hproper.sound
  have hmeans : env.definition definitions earlier.length = result := by
    rw [env.definition_of_append hdefinitions]
    rw [hrun] at hgives
    exact hgives.1.symm
  have hearlier : ∀ number, some earlier.length = some number → earlier.length ≤ number :=
    fun number hnumber => Nat.le_of_eq (Option.some.inj hnumber)
  obtain ⟨added, hadded, hreduced, hprefix, hall⟩ :=
    makes_nodes env hearlier formula.nodes chronicle
  rw [hrun] at hadded hall
  rw [← hnodes] at hprefix hall
  rw [hadded]
  constructor
  · rintro series rfl
    exact hproper.settled.reduce hevents (hreduced _ rfl) (hall series rfl) hmeans
  · rintro e rfl
    exact hproper.settled.fail hevents (hreduced _ rfl) hprefix hmeans

/-- Nodes of texts and of other definitions keep what the definitions keep that they refer to. -/
theorem proper_nodes {definitions earlier : List Formula} {owner : Option Nat} {number : Nat}
    (howner : owner ≠ some number)
    (hearlier : ∀ other,
      Preserves (Chronicle.Proper env definitions number) (env.chronicledSeries earlier other))
    (nodes : List Node) :
    Preserves (Chronicle.Proper env definitions number)
      (reduce (Operand.series env (env.makeCallFor owner) (env.chronicledSeries earlier))
        nodes []) := by
  refine Chronicled.preserves_reduce env (fun c => ?_) hearlier nodes
  exact Chronicled.preserves_makeCallFor env fun _ hproper => hproper.call howner c

theorem proper_chronicledSeries {definitions : List Formula} (number : Nat) (later : List Formula)
    {earlier : List Formula} (hdefinitions : later ++ earlier = definitions) (other : Nat) :
    Preserves (Chronicle.Proper env definitions number) (env.chronicledSeries earlier other) := by
  induction earlier generalizing later other with
  | nil => exact fun _ hproper => hproper
  | cons formula earlier ih =>
      have hsplit := (List.append_cons later formula earlier).symm.trans hdefinitions
      intro chronicle hproper
      have hgives := (gives_seriesOf later hdefinitions other).chronicled
        (follows_chronicledSeries env (formula :: earlier) other) hproper.sound
      refine ⟨hgives.2, records_chronicledSeries _ other chronicle hproper.records, ?_⟩
      unfold Environment.chronicledSeries
      split
      · next hother =>
        subst hother
        rw [Chronicled.run_get_bind]
        cases hlookup : chronicle.progress.found.lookup earlier.length with
        | some series => exact hproper.settled
        | none =>
            simp only [Chronicled.run_bind]
            rcases hrun : (reduce (Operand.series env (env.makeCallFor (some earlier.length))
                (env.chronicledSeries earlier)) formula.nodes []).run.run chronicle with
              ⟨result, reached⟩
            by_cases hnumber : earlier.length = number
            · subst hnumber
              obtain ⟨hok, herror⟩ := settled_attempt hdefinitions hproper hlookup hrun
              cases result with
              | ok series => exact hok series rfl
              | error e => exact herror e rfl
            · have howner : some earlier.length ≠ some number :=
                fun hsome => hnumber (Option.some.inj hsome)
              have hreached := proper_nodes howner (ih _ hsplit) formula.nodes chronicle hproper
              rw [hrun] at hreached
              cases result with
              | ok series => exact hreached.settled.cons howner
              | error e => exact hreached.settled
      · exact (ih _ hsplit other chronicle hproper).settled

/-- An evaluation of a text is not about a definition itself. -/
theorem proper_chronicle {definitions formulas : List Formula} (number : Nat)
    (hformulas : formulas <:+ definitions) (formula : Formula) :
    Preserves (Chronicle.Proper env definitions number) (env.chronicle formulas formula) := by
  obtain ⟨later, hdefinitions⟩ := hformulas
  exact proper_nodes (Option.some_ne_none number).symm
    (proper_chronicledSeries number later hdefinitions) formula.nodes

/-! ## Dialogues -/

namespace Session

/-- The formula that a question evaluates, if any. -/
def evaluatedBy (session : Session) : Question → Option Formula
  | .define _ _ => none
  | .evaluate source | .condition source => (session.compile source).toOption

/-- The formulas that questions evaluate, one for each evaluation. -/
def evaluated (session : Session) : List Question → List Formula
  | [] => []
  | question :: rest =>
    (session.evaluatedBy question).toList ++ (session.ask question).2.evaluated rest

/-- All that has happened after a question, latest first. -/
def eventsAfter (session : Session) (events : List Event) (question : Question) : List Event :=
  match session.evaluatedBy question with
  | none => events
  | some formula =>
    ((session.env.chronicle session.bindings.formulas formula).run.run
      ⟨session.progress, events⟩).2.events

/-- All that has happened after questions, latest first. -/
def events (session : Session) (earlier : List Event) : List Question → List Event
  | [] => earlier
  | question :: rest =>
    (session.ask question).2.events (session.eventsAfter earlier question) rest

/-- What a question leaves behind is what its evaluation does, if there is one. -/
theorem progress_ask (session : Session) (question : Question) :
    (session.ask question).2.progress =
      match session.evaluatedBy question with
      | none => session.progress
      | some formula =>
        ((session.env.evaluate session.bindings.formulas formula).run.run session.progress).2 := by
  have hevaluate : ∀ source, (session.evaluate source).2.progress =
      match (session.compile source).toOption with
      | none => session.progress
      | some formula =>
        ((session.env.evaluate session.bindings.formulas formula).run.run session.progress).2 := by
    intro source
    rw [evaluate]
    cases session.compile source <;> rfl
  cases question with
  | define name source =>
      rw [ask, define_eq_map]
      cases session.definiens source <;> rfl
  | evaluate source => exact hevaluate source
  | condition source => exact hevaluate source

/-- Definitions find nothing and make no calls. -/
theorem progress_ask_define (session : Session) (name source : String) :
    (session.ask (.define name source)).2.progress = session.progress :=
  session.progress_ask (.define name source)

/-- A question keeps what its evaluation keeps. -/
theorem keeps_ask {keeps : Chronicle → Prop} (session : Session) (question : Question)
    {events : List Event}
    (hpreserves : ∀ formula,
      Preserves keeps (session.env.chronicle session.bindings.formulas formula))
    (hkeeps : keeps ⟨session.progress, events⟩) :
    keeps ⟨(session.ask question).2.progress, session.eventsAfter events question⟩ := by
  rw [progress_ask, eventsAfter]
  cases session.evaluatedBy question with
  | none => exact hkeeps
  | some formula =>
      have hfollows := follows_chronicle session.env session.bindings.formulas formula
        ⟨session.progress, events⟩
      simp only [← hfollows.2]
      exact hpreserves formula ⟨session.progress, events⟩ hkeeps

theorem proper_asked {definitions : List Formula} (number : Nat) (session : Session)
    {events : List Event} {questions : List Question}
    (hformulas : (session.asked questions).bindings.formulas <:+ definitions)
    (hproper : Chronicle.Proper session.env definitions number ⟨session.progress, events⟩) :
    Chronicle.Proper session.env definitions number
      ⟨(session.asked questions).progress, session.events events questions⟩ := by
  induction questions generalizing session events with
  | nil => exact hproper
  | cons question rest ih =>
      have hcontinues := session.continues_asked (question :: rest)
      have henv := (session.moves_ask question).continues.env
      have hnext := session.keeps_ask question
        (proper_chronicle number (hcontinues.formulas.trans hformulas)) hproper
      rw [← henv] at hnext ⊢
      exact ih (session.ask question).2 hformulas hnext

/-- The calls that are made for texts are calls of the texts, in their order. -/
theorem exists_events_eq (session : Session) (earlier : List Event) (questions : List Question) :
    ∃ added, session.events earlier questions = added ++ earlier ∧
      (callsFor none added).reverse.Sublist
        (callsAmong ((session.evaluated questions).flatMap Formula.nodes)) := by
  induction questions generalizing session earlier with
  | nil => exact ⟨[], rfl, .slnil⟩
  | cons question rest ih =>
      obtain ⟨added, hadded, hcalls⟩ :=
        ih (session.ask question).2 (session.eventsAfter earlier question)
      rw [events, evaluated, List.flatMap_append, callsAmong_append, hadded, eventsAfter]
      cases session.evaluatedBy question with
      | none => exact ⟨added, rfl, hcalls⟩
      | some formula =>
          have hearlier : ∀ number, none = some number →
              session.bindings.formulas.length ≤ number := nofun
          obtain ⟨added', hadded', -, hprefix, -⟩ :=
            makes_nodes session.env hearlier formula.nodes ⟨session.progress, earlier⟩
          refine ⟨added ++ added', ?_, ?_⟩
          · rw [List.append_assoc]
            exact congrArg (added ++ ·) hadded'
          · rw [callsFor_append, List.reverse_append]
            refine List.Sublist.append ?_ hcalls
            simpa using hprefix.sublist

/-- What the events of a dialogue tell. -/
structure Shares (definitions evaluated : List Formula) (progress : Progress)
    (events : List Event) : Prop where
  /-- The calls are those that have been made. -/
  calls : events.filterMap Event.call? = progress.calls
  /-- The definitions that are reduced are remembered, even if the evaluation fails later on. -/
  reduced (number : Nat) : .reduced number ∈ events ↔ number ∈ progress.reduced
  /-- The calls for texts are calls of the texts that are evaluated, in their order. -/
  texts : (callsFor none events).reverse.Sublist (callsAmong (evaluated.flatMap Formula.nodes))
  /-- The calls for a definition stand in its nodes. -/
  stands (number : Nat) :
    ∀ c ∈ callsFor (some number) events, c ∈ callsAmong (nodesOf definitions number)
  /-- A definition that has been reduced is never called for again, nor reduced again. -/
  never (number : Nat) : events.Pairwise fun later earlier =>
    earlier = .reduced number → later.definition? ≠ some number
  /-- Each call of a definition that has been reduced has been made once. -/
  once (number : Nat) (hreduced : .reduced number ∈ events) :
    (callsFor (some number) events).reverse = callsAmong (nodesOf definitions number)

theorem shares_asked (frame : Frame) (registry : Registry) (questions : List Question) :
    let session := (start frame registry).asked questions
    Shares session.bindings.formulas ((start frame registry).evaluated questions) session.progress
      ((start frame registry).events [] questions) := by
  intro session
  have hstart : ∀ number, Chronicle.Proper ⟨frame, registry⟩ session.bindings.formulas number
      ⟨{}, []⟩ := by
    intro number
    have hsound : Progress.Sound ⟨frame, registry⟩ session.bindings.formulas {} := nofun
    exact ⟨hsound, .start, .start _ _ number⟩
  have hproper : ∀ number, Chronicle.Proper ⟨frame, registry⟩ session.bindings.formulas number
      ⟨session.progress, (start frame registry).events [] questions⟩ := by
    intro number
    exact (start frame registry).proper_asked number List.suffix_rfl (hstart number)
  obtain ⟨added, hadded, htexts⟩ := (start frame registry).exists_events_eq [] questions
  rw [List.append_nil] at hadded
  exact ⟨(hproper 0).records.calls, (hproper 0).records.reduced, hadded ▸ htexts,
    fun number => (hproper number).settled.stands, fun number => (hproper number).settled.last,
    fun number hreduced => (hproper number).settled.once hreduced⟩

end Session

end Screener
