import Screener.Proofs.Formula.Chronicle

/-!
# For whom calls are made

While nodes are reduced, their calls are made in their order, up to the end or to the first failure
(`makes_nodes`).  What happens meanwhile for the definitions that they refer to is not about the
owner of the nodes (`elsewhere_chronicledSeries`), because these definitions are earlier.
-/

namespace Screener

/-- The calls that stand in nodes, in their order. -/
def callsAmong (nodes : List Node) : List Call :=
  nodes.filterMap fun
    | .operand o => o.call?
    | .operator _ => none

theorem callsAmong_append (nodes rest : List Node) :
    callsAmong (nodes ++ rest) = callsAmong nodes ++ callsAmong rest :=
  List.filterMap_append

/-- The calls that have been made for a definition or for texts, latest first. -/
def callsFor (owner : Option Nat) (events : List Event) : List Call :=
  events.filterMap (Event.callFor? owner)

theorem callsFor_append (owner : Option Nat) (later earlier : List Event) :
    callsFor owner (later ++ earlier) = callsFor owner later ++ callsFor owner earlier :=
  List.filterMap_append

theorem callsFor_reduced (owner : Option Nat) (number : Nat) (earlier : List Event) :
    callsFor owner (.reduced number :: earlier) = callsFor owner earlier := by
  rw [callsFor, List.filterMap_cons, Event.callFor?, Event.call?, ite_self]
  rfl

/-- Events that are not about a definition make no calls for it. -/
theorem callsFor_eq_nil {owner : Option Nat} {events : List Event}
    (helsewhere : ∀ event ∈ events, event.definition? ≠ owner) : callsFor owner events = [] := by
  refine List.filterMap_eq_nil_iff.mpr fun event hevent => ?_
  rw [Event.callFor?, if_neg (helsewhere event hevent)]

/-! ## Elsewhere -/

/-- What has happened since is not about a definition, or is not about texts. -/
def Elsewhere (owner : Option Nat) (before after : Chronicle) : Prop :=
  ∃ added, after.events = added ++ before.events ∧ ∀ event ∈ added, event.definition? ≠ owner

theorem Elsewhere.refl (owner : Option Nat) (chronicle : Chronicle) :
    Elsewhere owner chronicle chronicle := ⟨[], rfl, nofun⟩

theorem Elsewhere.cons {owner : Option Nat} {before after : Chronicle}
    (helsewhere : Elsewhere owner before after) (progress : Progress) {event : Event}
    (hevent : event.definition? ≠ owner) :
    Elsewhere owner before ⟨progress, event :: after.events⟩ := by
  obtain ⟨added, hadded, howner⟩ := helsewhere
  refine ⟨event :: added, ?_, List.forall_mem_cons.mpr ⟨hevent, howner⟩⟩
  rw [hadded]
  rfl

open Chronicled (Preserves)

variable {env : Environment}

/-- References to earlier definitions are not about a later one, and not about texts. -/
theorem elsewhere_chronicledSeries {owner : Option Nat} (before : Chronicle)
    {earlier : List Formula} (hearlier : ∀ number, owner = some number → earlier.length ≤ number)
    (number : Nat) :
    Preserves (Elsewhere owner before) (env.chronicledSeries earlier number) := by
  induction earlier generalizing number with
  | nil => exact fun _ helsewhere => helsewhere
  | cons formula earlier ih =>
      have hrest : ∀ number, owner = some number → earlier.length ≤ number :=
        fun number howner => Nat.le_of_lt (hearlier number howner)
      unfold Environment.chronicledSeries
      split
      · next hnumber =>
        have howner : some number ≠ owner := by
          intro howner
          exact absurd (hearlier number howner.symm) (by rw [List.length_cons]; omega)
        have hreduce : Preserves (Elsewhere owner before)
            (reduce (Operand.series env (env.makeCallFor (some number))
              (env.chronicledSeries earlier)) formula.nodes []) := by
          refine Chronicled.preserves_reduce env (fun c => ?_) (ih hrest) formula.nodes
          exact Chronicled.preserves_makeCallFor env fun chronicle hkeeps => hkeeps.cons _ howner
        intro chronicle helsewhere
        rw [Chronicled.run_get_bind]
        cases chronicle.progress.found.lookup number with
        | some series => exact helsewhere
        | none =>
            refine hreduce.bind (fun series => ?_) chronicle helsewhere
            exact fun chronicle hkeeps => hkeeps.cons _ howner
      · exact ih hrest number

/-! ## The calls of nodes -/

/-- Whatever has happened before, the computation makes the calls of the nodes in their order, all of
them if it ends with a value, and does not reduce the definition that it makes them for. -/
def Makes {α : Type} (owner : Option Nat) (nodes : List Node) (computation : Chronicled α) : Prop :=
  ∀ chronicle, ∃ added,
    (computation.run.run chronicle).2.events = added ++ chronicle.events ∧
    (∀ number, owner = some number → .reduced number ∉ added) ∧
    (callsFor owner added).reverse <+: callsAmong nodes ∧
    ∀ value, (computation.run.run chronicle).1 = .ok value →
      (callsFor owner added).reverse = callsAmong nodes

namespace Makes

variable {α β : Type} {owner : Option Nat} {nodes rest : List Node}

/-- A computation that is elsewhere makes none of the calls. -/
theorem silent (hcalls : callsAmong nodes = []) {computation : Chronicled α}
    (helsewhere : ∀ before, Preserves (Elsewhere owner before) computation) :
    Makes owner nodes computation := by
  intro chronicle
  obtain ⟨added, hadded, howner⟩ := helsewhere chronicle chronicle (.refl owner chronicle)
  have hnone : (callsFor owner added).reverse = callsAmong nodes := by
    rw [callsFor_eq_nil howner, hcalls]
    rfl
  refine ⟨added, hadded, ?_, hnone ▸ List.prefix_rfl, fun _ _ => hnone⟩
  rintro number rfl hmem
  exact howner _ hmem rfl

theorem pure (hcalls : callsAmong nodes = []) (value : α) :
    Makes owner nodes (Pure.pure value : Chronicled α) :=
  silent hcalls fun _ _ helsewhere => helsewhere

theorem throw (e : EvaluationError) :
    Makes owner nodes (MonadExcept.throw e : Chronicled α) :=
  fun _ => ⟨[], rfl, fun _ _ => nofun, List.nil_prefix, nofun⟩

theorem call (env : Environment) (owner : Option Nat) (c : Call) :
    Makes owner [.operand (.call c)] (env.makeCallFor owner c) := by
  intro chronicle
  have hrun : ((env.makeCallFor owner c).run.run chronicle).2.events =
      [.call owner c] ++ chronicle.events :=
    congrArg (fun ran => ran.2.events) (Chronicled.run_settle (env.compute c) _)
  have hcalls : (callsFor owner [.call owner c]).reverse = [c] := by
    simp [callsFor, Event.callFor?, Event.definition?, Event.call?]
  exact ⟨_, hrun, by simp, hcalls ▸ List.prefix_rfl, fun _ _ => hcalls⟩

theorem bind {first : Chronicled α} {next : α → Chronicled β} (hfirst : Makes owner nodes first)
    (hnext : ∀ value, Makes owner rest (next value)) :
    Makes owner (nodes ++ rest) (first >>= next) := by
  intro chronicle
  obtain ⟨added, hadded, hreduced, hprefix, hall⟩ := hfirst chronicle
  rw [Chronicled.run_bind, callsAmong_append]
  rcases hrun : first.run.run chronicle with ⟨result, reached⟩
  rw [hrun] at hadded hall
  cases result with
  | error e => exact ⟨added, hadded, hreduced, hprefix.trans (List.prefix_append _ _), nofun⟩
  | ok value =>
      obtain ⟨added', hadded', hreduced', hprefix', hall'⟩ := hnext value reached
      have hcalls : (callsFor owner (added' ++ added)).reverse =
          callsAmong nodes ++ (callsFor owner added').reverse := by
        rw [callsFor_append, List.reverse_append, hall value rfl]
      refine ⟨added' ++ added, ?_, fun number howner hmem => ?_, ?_, fun value' hvalue => ?_⟩
      · rw [hadded', hadded, List.append_assoc]
      · rcases List.mem_append.mp hmem with hmem | hmem
        · exact hreduced' number howner hmem
        · exact hreduced number howner hmem
      · rw [hcalls]
        exact (List.prefix_append_right_inj _).mpr hprefix'
      · rw [hcalls, hall' value' hvalue]

end Makes

/-- The steps of a reduction make the calls of its nodes if its operands do. -/
theorem along_makes (owner : Option Nat) :
    Along fun α nodes (computation : Chronicled α) => Makes owner nodes computation where
  pure := .pure rfl
  operator _ := .pure rfl
  throw _ e := .throw e
  bind hfirst hnext := hfirst.bind hnext

theorem makes_series {owner : Option Nat} {definition : Nat → Chronicled Series}
    (hdefinition : ∀ number before, Preserves (Elsewhere owner before) (definition number))
    (o : Operand) :
    Makes owner [.operand o] (o.series env (env.makeCallFor owner) definition) := by
  have halong := along_makes owner
  have hcontent : Makes owner [.operand o] (o.content env (env.makeCallFor owner) definition) := by
    cases o with
    | literal value => exact .pure rfl _
    | column name => exact halong.settle (.pure rfl) _
    | call c => exact .call env owner c
    | reference name number => exact .silent rfl (hdefinition number)
    | lag name periods number =>
        have hsilent : Makes owner [.operand (.lag name periods number)] (definition number) :=
          .silent rfl (hdefinition number)
        exact hsilent.bind fun series => halong.pure _
  exact hcontent.bind fun series => halong.settle halong.pure (env.checkLength series)

/-- Nodes that refer to earlier definitions make their own calls. -/
theorem makes_nodes (env : Environment) {owner : Option Nat} {earlier : List Formula}
    (hearlier : ∀ number, owner = some number → earlier.length ≤ number) (nodes : List Node) :
    Makes owner nodes (reduce (Operand.series env (env.makeCallFor owner)
      (env.chronicledSeries earlier)) nodes []) := by
  have hdefinition (number : Nat) (before : Chronicle) :
      Preserves (Elsewhere owner before) (env.chronicledSeries earlier number) :=
    elsewhere_chronicledSeries before hearlier number
  exact (along_makes owner).reduce (fun o _ => makes_series hdefinition o) []

end Screener
