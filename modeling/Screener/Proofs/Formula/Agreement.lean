import Mathlib.Data.List.Forall2
import Screener.Proofs.Formula.Memory

/-!
# Formulas on two frames

A formula is reduced in the same way on every frame, so a relation between series that the steps of
a reduction keep holds between its results on two frames, and a failure on one is the same failure
on the other (`Environment.meaning_agree`).  What the steps keep is stated in `Related`; a lag may
keep less, so it is asked of those lags only that a formula reaches, through definitions too
(`Reaches`).

## Strategy

`reduce_agree` is an induction on the nodes with related stacks.  For references it is applied to
the nodes of the definition, by induction on the definitions that were made before it
(`Environment.definition_agree`); what a definition reaches is reached by whatever refers to it.
-/

namespace Screener

/-- Two results that are both values in the relation, or both the same failure. -/
inductive Agree {ε α β : Type} (R : α → β → Prop) : Except ε α → Except ε β → Prop
  | ok {a : α} {b : β} (hrelated : R a b) : Agree R (.ok a) (.ok b)
  | error (e : ε) : Agree R (.error e) (.error e)

namespace Agree

variable {ε α β : Type} {R : α → β → Prop}

/-- What follows has to agree on related values only, and only on those that are reached. -/
theorem bind_of_eq_ok {γ δ : Type} {S : γ → δ → Prop} {x : Except ε α} {y : Except ε β}
    {f : α → Except ε γ} {g : β → Except ε δ} (hfirst : Agree R x y)
    (hnext : ∀ a b, x = .ok a → R a b → Agree S (f a) (g b)) : Agree S (x >>= f) (y >>= g) := by
  cases hfirst with
  | ok hrelated => exact hnext _ _ rfl hrelated
  | error e => exact .error e

theorem bind {γ δ : Type} {S : γ → δ → Prop} {x : Except ε α} {y : Except ε β}
    {f : α → Except ε γ} {g : β → Except ε δ} (hfirst : Agree R x y)
    (hnext : ∀ a b, R a b → Agree S (f a) (g b)) : Agree S (x >>= f) (y >>= g) :=
  hfirst.bind_of_eq_ok fun a b _ hrelated => hnext a b hrelated

theorem map {γ δ : Type} {S : γ → δ → Prop} {x : Except ε α} {y : Except ε β} {f : α → γ}
    {g : β → δ} (h : Agree R x y) (hvalues : ∀ a b, R a b → S (f a) (g b)) :
    Agree S (x.map f) (y.map g) := by
  cases h with
  | ok hrelated => exact .ok (hvalues _ _ hrelated)
  | error e => exact .error e

theorem mapError {φ : Type} {x : Except ε α} {y : Except ε β} (h : Agree R x y) (f : ε → φ) :
    Agree R (x.mapError f) (y.mapError f) := by
  cases h with
  | ok hrelated => exact .ok hrelated
  | error e => exact .error (f e)

/-- Results that agree fail alike. -/
theorem eq_error_iff {x : Except ε α} {y : Except ε β} (h : Agree R x y) (e : ε) :
    x = .error e ↔ y = .error e := by
  cases h with
  | ok hrelated => exact ⟨nofun, nofun⟩
  | error e' =>
      constructor
      · rintro ⟨⟩
        rfl
      · rintro ⟨⟩
        rfl

/-- Results that agree succeed alike, with related values. -/
theorem exists_ok_left {x : Except ε α} {y : Except ε β} (h : Agree R x y) {b : β}
    (hvalue : y = .ok b) : ∃ a, x = .ok a ∧ R a b := by
  subst hvalue
  cases h with
  | ok hrelated => exact ⟨_, rfl, hrelated⟩

theorem exists_ok_right {x : Except ε α} {y : Except ε β} (h : Agree R x y) {a : α}
    (hvalue : x = .ok a) : ∃ b, y = .ok b ∧ R a b := by
  subst hvalue
  cases h with
  | ok hrelated => exact ⟨_, rfl, hrelated⟩

theorem exists_ok {x : Except ε α} {y : Except ε β} (h : Agree R x y)
    (hvalue : ∃ value, y = .ok value) : ∃ value, x = .ok value := by
  obtain ⟨b, hb⟩ := hvalue
  obtain ⟨a, ha, -⟩ := h.exists_ok_left hb
  exact ⟨a, ha⟩

/-- Functions that agree on related values give the same results. -/
theorem map_eq_map {γ : Type} {f : α → γ} {g : β → γ} {x : Except ε α} {y : Except ε β}
    (h : Agree R x y) (hvalues : ∀ a b, R a b → g b = f a) : y.map g = x.map f := by
  cases h with
  | ok hrelated => exact congrArg Except.ok (hvalues _ _ hrelated)
  | error e => rfl

theorem eq_map {f : α → β} {x : Except ε α} {y : Except ε β} (h : Agree R x y)
    (hvalues : ∀ a b, R a b → b = f a) : y = x.map f := by
  cases h with
  | ok hrelated => exact congrArg Except.ok (hvalues _ _ hrelated)
  | error e => rfl

end Agree

/-! ## What a formula reaches -/

/-- The definition that an operand refers to. -/
def Operand.definition? : Operand → Option Nat
  | .reference _ number | .lag _ _ number => some number
  | _ => none

/-- The operands of a list of nodes and of the definitions that it refers to, however far. -/
inductive Reaches (definitions : List Formula) : List Node → Operand → Prop
  | here {nodes : List Node} {o : Operand} (hmem : .operand o ∈ nodes) :
      Reaches definitions nodes o
  | through {nodes : List Node} {o : Operand} {number : Nat} {formula : Formula} {p : Operand}
      (hmem : .operand o ∈ nodes) (hnumber : o.definition? = some number)
      (hformula : definitions.reverse[number]? = some formula)
      (hreaches : Reaches definitions formula.nodes p) : Reaches definitions nodes p

/-- What is reached stands in the nodes or in some definition. -/
theorem Reaches.mem {definitions : List Formula} {nodes : List Node} {o : Operand}
    (hreaches : Reaches definitions nodes o) :
    .operand o ∈ nodes ∨ ∃ formula ∈ definitions, .operand o ∈ formula.nodes := by
  induction hreaches with
  | here hmem => exact .inl hmem
  | through _ _ hformula _ ih =>
      have hdefinition := List.mem_reverse.mp (List.mem_of_getElem? hformula)
      rcases ih with hmem | hlater
      · exact .inr ⟨_, hdefinition, hmem⟩
      · exact .inr hlater

/-- The number of a definition is the number of those made before it. -/
theorem getElem?_reverse_of_append {definitions later earlier : List Formula} {formula : Formula}
    (hdefinitions : later ++ formula :: earlier = definitions) :
    definitions.reverse[earlier.length]? = some formula := by
  rw [← hdefinitions]
  simp

/-! ## One step -/

/-- A relation that the steps of a reduction keep, lags apart, and that fixes the lengths. -/
structure Related (R : Series → Series → Prop) (env env' : Environment) : Prop where
  kind {s s' : Series} : R s s' → s'.kind = s.kind
  length {s s' : Series} : R s s' → s.length = env.frame.size ∧ s'.length = env'.frame.size
  combine (op : Operator) {left right left' right' : Series} : R left left' → R right right' →
    Agree R (Series.combine op left right) (Series.combine op left' right')
  literal (value : Float) :
    R (.broadcast value env.frame.size) (.broadcast value env'.frame.size)
  column (read : Bar Float → Float) :
    R (.ofNumbers (env.frame.bars.map read)) (.ofNumbers (env'.frame.bars.map read))
  call (c : Call) : Agree R (env.compute c) (env'.compute c)

variable {R : Series → Series → Prop} {env env' : Environment}

theorem reduce_agree
    (hcombine : ∀ (op : Operator) {left right left' right' : Series}, R left left' →
      R right right' → Agree R (Series.combine op left right) (Series.combine op left' right'))
    {operand operand' : Operand → Except EvaluationError Series} {nodes : List Node}
    (hoperand : ∀ o, .operand o ∈ nodes → Agree R (operand o) (operand' o))
    {stack stack' : List Series} (hstack : List.Forall₂ R stack stack') :
    Agree R (reduce operand nodes stack) (reduce operand' nodes stack') := by
  induction nodes generalizing stack stack' with
  | nil =>
      match hstack with
      | .nil => exact .error _
      | .cons hseries .nil => exact .ok hseries
      | .cons _ (.cons _ hrest) =>
          -- the failure tells the number of values, which is the same on both stacks
          simp only [reduce, List.length_cons, hrest.length_eq]
          exact .error _
  | cons node rest ih =>
      have hrest : ∀ o, .operand o ∈ rest → Agree R (operand o) (operand' o) :=
        fun o hmem => hoperand o (List.mem_cons_of_mem _ hmem)
      cases node with
      | operand o =>
          exact (hoperand o List.mem_cons_self).bind fun a b hseries =>
            ih hrest (.cons hseries hstack)
      | operator op =>
          match hstack with
          | .nil => exact .error _
          | .cons _ .nil => exact .error _
          | .cons hright (.cons hleft hbelow) =>
              rw [reduce, reduce, settle_eq, settle_eq]
              exact (hcombine op hleft hright).bind fun a b hseries =>
                ih hrest (.cons hseries hbelow)

namespace Related

/-- Operands agree if the definitions they refer to do. -/
theorem series_agree (hrelated : Related R env env')
    {definition definition' : Nat → Except EvaluationError Series} {o : Operand}
    (hdefinition : ∀ number, o.definition? = some number →
      Agree R (definition number) (definition' number))
    (hlag : ∀ name periods number, o = .lag name periods number →
      ∀ s s', R s s' → R (s.shift periods) (s'.shift periods)) :
    Agree R (o.series env env.compute definition) (o.series env' env'.compute definition') := by
  rw [Operand.series, Operand.series]
  refine Agree.bind (R := R) ?_ fun s s' hseries => ?_
  · cases o with
    | literal value => exact .ok (hrelated.literal value)
    | column name =>
        rw [Operand.content, Operand.content, settle_eq, settle_eq, Frame.column?, Frame.column?]
        cases Frame.cell? name with
        | none => exact .error _
        | some read => exact .ok (hrelated.column read)
    | call c => exact hrelated.call c
    | reference name number => exact hdefinition number rfl
    | lag name periods number =>
        exact (hdefinition number rfl).bind fun s s' hseries =>
          .ok (hlag name periods number rfl s s' hseries)
  · obtain ⟨hlength, hlength'⟩ := hrelated.length hseries
    rw [settle_eq, settle_eq, Environment.checkLength, Environment.checkLength, if_pos hlength,
      if_pos hlength']
    exact .ok hseries

end Related

/-! ## Definitions and formulas -/

/-- The lags that the nodes reach keep the relation. -/
def KeepsLags (R : Series → Series → Prop) (definitions : List Formula) (nodes : List Node) :
    Prop :=
  ∀ name periods number, Reaches definitions nodes (.lag name periods number) →
    ∀ s s', R s s' → R (s.shift periods) (s'.shift periods)

/-- What holds of the lags that nodes reach holds of those that their definitions reach. -/
theorem KeepsLags.through {definitions : List Formula} {nodes : List Node} {o : Operand}
    {number : Nat} {formula : Formula} (hlags : KeepsLags R definitions nodes)
    (hmem : .operand o ∈ nodes) (hnumber : o.definition? = some number)
    (hformula : definitions.reverse[number]? = some formula) :
    KeepsLags R definitions formula.nodes :=
  fun name periods other hreaches =>
    hlags name periods other (.through hmem hnumber hformula hreaches)

namespace Environment

/-- Nodes agree if the definitions that they refer to do. -/
private theorem reduce_series_agree (hrelated : Related R env env') {definitions : List Formula}
    {nodes : List Node} (hlags : KeepsLags R definitions nodes)
    {definition definition' : Nat → Except EvaluationError Series}
    (hdefinition : ∀ number,
      (∀ formula, definitions.reverse[number]? = some formula →
        KeepsLags R definitions formula.nodes) →
      Agree R (definition number) (definition' number)) :
    Agree R (reduce (Operand.series env env.compute definition) nodes [])
      (reduce (Operand.series env' env'.compute definition') nodes []) := by
  refine reduce_agree hrelated.combine (fun o hmem => ?_) .nil
  apply hrelated.series_agree
  · intro number hnumber
    apply hdefinition
    intro formula hformula
    exact hlags.through hmem hnumber hformula
  · rintro name periods number rfl
    exact hlags name periods number (.here hmem)

theorem definition_agree (hrelated : Related R env env') {definitions : List Formula}
    (later : List Formula) {earlier : List Formula} (hdefinitions : later ++ earlier = definitions)
    (number : Nat)
    (hlags : ∀ formula, definitions.reverse[number]? = some formula →
      KeepsLags R definitions formula.nodes) :
    Agree R (env.definition earlier number) (env'.definition earlier number) := by
  induction earlier generalizing later number with
  | nil => exact .error _
  | cons formula earlier ih =>
      have hsplit : (later ++ [formula]) ++ earlier = definitions := by
        rw [List.append_assoc]
        exact hdefinitions
      unfold definition
      split
      · next hnumber =>
        have hformula := getElem?_reverse_of_append hdefinitions
        rw [← hnumber] at hformula
        exact reduce_series_agree hrelated (hlags formula hformula) (ih (later ++ [formula]) hsplit)
      · exact ih (later ++ [formula]) hsplit number hlags

/-- A formula whose lags keep the relation has related meanings. -/
theorem meaning_agree (hrelated : Related R env env') {definitions : List Formula}
    {formula : Formula} (hlags : KeepsLags R definitions formula.nodes) :
    Agree R (env.meaning definitions formula) (env'.meaning definitions formula) :=
  reduce_series_agree hrelated hlags (definition_agree hrelated [] rfl)

end Environment

end Screener
