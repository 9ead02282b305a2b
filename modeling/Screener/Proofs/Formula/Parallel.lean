import Screener.Formula.Reduce

/-!
# Reductions side by side

When the same nodes are reduced twice, with different ways to make calls or to look up
definitions, both reductions take the same steps.  So a relation between computations that the
steps keep (`Parallel`) holds of the reductions if it holds of the operands (`Parallel.reduce`),
and of an operand if it holds of its call or definition (`Parallel.series`).  The two may have
different effects: one may have a memory, for instance, and the other none.

What a reduction does can also be told along its nodes, one after the other (`Along`): it does what
their operands do (`Along.reduce`).
-/

namespace Screener

variable {m m' : Type → Type} [Monad m] [MonadExceptOf EvaluationError m] [Monad m']
  [MonadExceptOf EvaluationError m']

/-- A relation between computations that the steps of a reduction keep. -/
structure Parallel (rel : ∀ α : Type, m α → m' α → Prop) : Prop where
  pure {α : Type} (value : α) : rel α (pure value) (pure value)
  throw {α : Type} (e : EvaluationError) :
    rel α (throwThe EvaluationError e) (throwThe EvaluationError e)
  bind {α β : Type} {first : m α} {first' : m' α} {next : α → m β} {next' : α → m' β}
    (hfirst : rel α first first') (hnext : ∀ value, rel β (next value) (next' value)) :
    rel β (first >>= next) (first' >>= next')

/-- Equal reductions are side by side. -/
theorem parallel_eq : Parallel fun (α : Type) (first second : m α) => first = second where
  pure _ := rfl
  throw _ := rfl
  bind := by
    rintro α β first - next next' rfl hnext
    rw [funext hnext]

namespace Parallel

variable {rel : ∀ α : Type, m α → m' α → Prop}

theorem settle (hparallel : Parallel rel) {α : Type} (result : Except EvaluationError α) :
    rel α (Screener.settle result) (Screener.settle result) := by
  cases result with
  | ok value => exact hparallel.pure value
  | error e => exact hparallel.throw e

theorem reduce (hparallel : Parallel rel) {operand : Operand → m Series}
    {operand' : Operand → m' Series} {nodes : List Node}
    (hoperand : ∀ o, .operand o ∈ nodes → rel Series (operand o) (operand' o))
    (stack : List Series) :
    rel Series (Screener.reduce operand nodes stack) (Screener.reduce operand' nodes stack) := by
  induction nodes generalizing stack with
  | nil =>
      match stack with
      | [] => exact hparallel.throw _
      | [series] => exact hparallel.pure series
      | _ :: _ :: _ => exact hparallel.throw _
  | cons node rest ih =>
      have hrest := ih fun o hmem => hoperand o (List.mem_cons_of_mem _ hmem)
      cases node with
      | operand o =>
          exact hparallel.bind (hoperand o List.mem_cons_self) fun series => hrest (series :: stack)
      | operator op =>
          match stack with
          | [] => exact hparallel.throw _
          | [_] => exact hparallel.throw _
          | right :: left :: below =>
              exact hparallel.bind (hparallel.settle _) fun series => hrest (series :: below)

theorem series (hparallel : Parallel rel) (env : Environment) {call : Call → m Series}
    {call' : Call → m' Series} {definition : Nat → m Series} {definition' : Nat → m' Series}
    (hcall : ∀ c, rel Series (call c) (call' c))
    (hdefinition : ∀ number, rel Series (definition number) (definition' number)) (o : Operand) :
    rel Series (o.series env call definition) (o.series env call' definition') := by
  refine hparallel.bind ?_ fun series => hparallel.settle (env.checkLength series)
  cases o with
  | literal value => exact hparallel.pure _
  | column name => exact hparallel.settle _
  | call c => exact hcall c
  | reference name number => exact hdefinition number
  | lag name periods number =>
      exact hparallel.bind (hdefinition number) fun series => hparallel.pure _

end Parallel

/-! ## Along the nodes -/

/-- A relation between nodes and computations that the steps of a reduction keep.  Operators do
nothing beside giving a value. -/
structure Along (rel : ∀ α : Type, List Node → m α → Prop) : Prop where
  pure {α : Type} (value : α) : rel α [] (Pure.pure value)
  operator {α : Type} (op : Operator) (value : α) : rel α [.operator op] (Pure.pure value)
  throw {α : Type} (nodes : List Node) (e : EvaluationError) :
    rel α nodes (throwThe EvaluationError e)
  bind {α β : Type} {nodes rest : List Node} {first : m α} {next : α → m β}
    (hfirst : rel α nodes first) (hnext : ∀ value, rel β rest (next value)) :
    rel β (nodes ++ rest) (first >>= next)

namespace Along

variable {rel : ∀ α : Type, List Node → m α → Prop}

theorem settle (halong : Along rel) {α : Type} {nodes : List Node}
    (hvalue : ∀ value : α, rel α nodes (Pure.pure value)) (result : Except EvaluationError α) :
    rel α nodes (Screener.settle result) := by
  cases result with
  | ok value => exact hvalue value
  | error e => exact halong.throw nodes e

theorem reduce (halong : Along rel) {operand : Operand → m Series} {nodes : List Node}
    (hoperand : ∀ o, .operand o ∈ nodes → rel Series [.operand o] (operand o))
    (stack : List Series) : rel Series nodes (Screener.reduce operand nodes stack) := by
  induction nodes generalizing stack with
  | nil =>
      match stack with
      | [] => exact halong.throw [] _
      | [series] => exact halong.pure series
      | _ :: _ :: _ => exact halong.throw [] _
  | cons node rest ih =>
      have hrest := ih fun o hmem => hoperand o (List.mem_cons_of_mem _ hmem)
      cases node with
      | operand o =>
          exact halong.bind (hoperand o List.mem_cons_self) fun series => hrest (series :: stack)
      | operator op =>
          match stack with
          | [] => exact halong.throw _ _
          | [_] => exact halong.throw _ _
          | right :: left :: below =>
              exact halong.bind (halong.settle (halong.operator op) _)
                fun series => hrest (series :: below)

end Along

end Screener
