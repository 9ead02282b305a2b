import Screener.Proofs.Formula.Agreement

/-!
# Lags

A lag is a translation: the entry of a row is the entry that stood a fixed number of rows away, and
what lies outside the rows counts as missing (`Series.entryAt_shiftRows`).  Two lags in the same
direction are one lag.  In opposite directions they are not, since what has left the rows does not
come back.

Operators work row by row and give nothing for two missing entries, so it makes no difference whether
the operands or the results are lagged: for one operator (`Series.combine_shift`), for a list of nodes
whatever its operands are (`reduce_shift`), and for a formula on variables
(`Environment.meaning_lagged`).
-/

namespace Screener

namespace Series

variable {α β γ : Type}

/-! ## Entries at a place -/

/-- The entry at a place; outside the rows it is missing. -/
def entryAt (rows : List (Option α)) (place : Int) : Option α :=
  if place < 0 then none else rows[place.toNat]?.join

theorem entryAt_natCast {rows : List (Option α)} {row : Nat} (hrow : row < rows.length) :
    entryAt rows row = rows[row] := by
  unfold entryAt
  rw [if_neg (by omega), Int.toNat_natCast, List.getElem?_eq_getElem hrow]
  rfl

theorem entryAt_of_outside {rows : List (Option α)} {place : Int}
    (hplace : place < 0 ∨ rows.length ≤ place) : entryAt rows place = none := by
  unfold entryAt
  split
  · rfl
  · have hend : rows.length ≤ place.toNat := by omega
    rw [List.getElem?_eq_none hend]
    rfl

/-- Columns of one length with the same entries are the same. -/
theorem ext_entryAt {rows rows' : List (Option α)} (hlength : rows.length = rows'.length)
    (hentry : ∀ row : Nat, row < rows.length → entryAt rows row = entryAt rows' row) :
    rows = rows' := by
  refine List.ext_getElem hlength fun row hrow hrow' => ?_
  rw [← entryAt_natCast hrow, ← entryAt_natCast hrow', hentry row hrow]

/-- A lag moves every entry by the same number of places. -/
theorem entryAt_shiftRows (rows : List (Option α)) (periods : Int) {row : Nat}
    (hrow : row < rows.length) : entryAt (shiftRows rows periods) row = entryAt rows (row - periods) := by
  have hrow' : row < (shiftRows rows periods).length := by rwa [length_shiftRows]
  rw [entryAt_natCast hrow']
  unfold shiftRows
  by_cases hperiods : 0 ≤ periods
  · simp only [if_pos hperiods]
    by_cases hgap : (row : Int) < periods
    · rw [entryAt_of_outside (.inl (by omega)), List.getElem_append_left (by simp; omega)]
      simp
    · have hplace : (row : Int) - periods = (row - periods.natAbs : Nat) := by omega
      rw [hplace, entryAt_natCast (by omega), List.getElem_append_right (by simp; omega)]
      simp [List.getElem_take]
      congr 1
      omega
  · simp only [if_neg hperiods]
    by_cases hgap : rows.length ≤ row + periods.natAbs
    · rw [entryAt_of_outside (.inr (by omega)), List.getElem_append_right (by simp; omega)]
      simp
    · have hplace : (row : Int) - periods = (periods.natAbs + row : Nat) := by omega
      rw [hplace, entryAt_natCast (by omega), List.getElem_append_left (by simp; omega)]
      simp [List.getElem_drop]

/-- Joining columns row by row joins the entries at every place, also outside the rows. -/
theorem entryAt_zipWith {f : Option α → Option β → Option γ} (hnone : f none none = none)
    {left : List (Option α)} {right : List (Option β)} (hlength : left.length = right.length)
    (place : Int) :
    entryAt (List.zipWith f left right) place = f (entryAt left place) (entryAt right place) := by
  by_cases hplace : place < 0 ∨ left.length ≤ place
  · have hzip : place < 0 ∨ ((List.zipWith f left right).length : Int) ≤ place := by
      rw [List.length_zipWith]
      omega
    rw [entryAt_of_outside hzip, entryAt_of_outside hplace, entryAt_of_outside (by omega), hnone]
  · obtain ⟨row, rfl⟩ := Int.eq_ofNat_of_zero_le (a := place) (by omega)
    rw [entryAt_natCast (by rw [List.length_zipWith]; omega), entryAt_natCast (by omega),
      entryAt_natCast (by omega), List.getElem_zipWith]

/-! ## Lags of columns -/

/-- Whether two lags move entries in the same direction, if at all. -/
def SameDirection (periods further : Int) : Prop :=
  0 ≤ periods ∧ 0 ≤ further ∨ periods ≤ 0 ∧ further ≤ 0

theorem shiftRows_shiftRows (rows : List (Option α)) {periods further : Int}
    (hdirection : SameDirection periods further) :
    shiftRows (shiftRows rows periods) further = shiftRows rows (periods + further) := by
  refine ext_entryAt (by simp only [length_shiftRows]) fun row hrow => ?_
  simp only [length_shiftRows] at hrow
  have hsum : (row : Int) - (periods + further) = row - further - periods := by omega
  rw [entryAt_shiftRows _ _ (by rwa [length_shiftRows]), entryAt_shiftRows _ _ hrow, hsum]
  unfold SameDirection at hdirection
  by_cases hplace : (row : Int) - further < 0 ∨ rows.length ≤ (row : Int) - further
  · -- the entry has left the rows at the second lag, and would be still farther off at the first
    rw [entryAt_of_outside (by rwa [length_shiftRows]), entryAt_of_outside (by omega)]
  · obtain ⟨earlier, hearlier⟩ := Int.eq_ofNat_of_zero_le (a := row - further) (by omega)
    rw [hearlier]
    exact entryAt_shiftRows rows periods (by omega)

theorem shiftRows_zipWith {f : Option α → Option β → Option γ} (hnone : f none none = none)
    {left : List (Option α)} {right : List (Option β)} (hlength : left.length = right.length)
    (periods : Int) :
    List.zipWith f (shiftRows left periods) (shiftRows right periods) =
      shiftRows (List.zipWith f left right) periods := by
  refine ext_entryAt (by simp only [List.length_zipWith, length_shiftRows]) fun row hrow => ?_
  simp only [List.length_zipWith, length_shiftRows] at hrow
  rw [entryAt_zipWith hnone (by simpa using hlength), entryAt_shiftRows _ _ (by omega),
    entryAt_shiftRows _ _ (by omega), entryAt_shiftRows _ _ (by rw [List.length_zipWith]; omega),
    entryAt_zipWith hnone hlength]

/-! ## Lags of series -/

@[simp] theorem kind_shift (series : Series) (periods : Int) :
    (series.shift periods).kind = series.kind := by
  cases series <;> rfl

theorem shift_shift (series : Series) {periods further : Int}
    (hdirection : SameDirection periods further) :
    (series.shift periods).shift further = series.shift (periods + further) := by
  cases series with
  | numbers rows => exact congrArg numbers (shiftRows_shiftRows rows hdirection)
  | truths rows => exact congrArg truths (shiftRows_shiftRows rows hdirection)

theorem onNumbers?_shift (op : Operator) {left right : List (Option Float)}
    (hlength : left.length = right.length) (periods : Int) :
    onNumbers? op (shiftRows left periods) (shiftRows right periods) =
      (onNumbers? op left right).map (·.shift periods) := by
  cases op with
  | add | sub | mul | div =>
      exact congrArg (some ∘ numbers) (shiftRows_zipWith rfl hlength periods)
  | gt | ge | lt | le | eq | ne =>
      exact congrArg (some ∘ truths) (shiftRows_zipWith rfl hlength periods)
  | and | or => rfl

theorem onTruths?_shift (op : Operator) {left right : List (Option Bool)}
    (hlength : left.length = right.length) (periods : Int) :
    onTruths? op (shiftRows left periods) (shiftRows right periods) =
      (onTruths? op left right).map (·.shift periods) := by
  cases op with
  | and | or | eq | ne => exact congrArg (some ∘ truths) (shiftRows_zipWith rfl hlength periods)
  | add | sub | mul | div | gt | ge | lt | le => rfl

/-- An operator may be applied before or after a lag; if it cannot be applied, the failure is the
same. -/
theorem combine_shift (op : Operator) (left right : Series) (periods : Int) :
    combine op (left.shift periods) (right.shift periods) =
      (combine op left right).map (·.shift periods) := by
  have hmismatch : mismatch op (left.shift periods) (right.shift periods) =
      mismatch op left right := by
    rw [mismatch, mismatch, kind_shift, kind_shift]
  unfold combine
  rw [length_shift, length_shift, hmismatch]
  by_cases hlength : left.length = right.length
  · rw [if_neg (not_not_intro hlength), if_neg (not_not_intro hlength)]
    cases left with
    | numbers l =>
        cases right with
        | numbers r =>
            simp only [shift, onNumbers?_shift op hlength]
            cases onNumbers? op l r <;> rfl
        | truths r => rfl
    | truths l =>
        cases right with
        | numbers r => rfl
        | truths r =>
            simp only [shift, onTruths?_shift op hlength]
            cases onTruths? op l r <;> rfl
  · rw [if_pos hlength, if_pos hlength]
    rfl

end Series

/-! ## Lags of formulas -/

/-- The second series is a lag of the first. -/
abbrev LaggedBy (periods : Int) (s s' : Series) : Prop := s' = s.shift periods

namespace LaggedBy

variable {periods : Int}

theorem agree_map (result : Except EvaluationError Series) :
    Agree (LaggedBy periods) result (result.map (·.shift periods)) := by
  cases result with
  | ok series => exact .ok rfl
  | error e => exact .error e

theorem combine (op : Operator) {left right left' right' : Series}
    (hleft : LaggedBy periods left left') (hright : LaggedBy periods right right') :
    Agree (LaggedBy periods) (Series.combine op left right) (Series.combine op left' right') := by
  rw [hleft, hright, Series.combine_shift]
  exact agree_map _

end LaggedBy

/-- A list of nodes reduces to the lag of its series if the operands are lagged; what the operands
are does not matter, and if one of them fails, the failure is the same. -/
theorem reduce_shift {operand operand' : Operand → Except EvaluationError Series} {periods : Int}
    {nodes : List Node}
    (hoperand : ∀ o, .operand o ∈ nodes → operand' o = (operand o).map (·.shift periods)) :
    reduce operand' nodes [] = (reduce operand nodes []).map (·.shift periods) := by
  have hagree : Agree (LaggedBy periods) (reduce operand nodes []) (reduce operand' nodes []) := by
    refine reduce_agree LaggedBy.combine (fun o hmem => ?_) .nil
    rw [hoperand o hmem]
    exact LaggedBy.agree_map (operand o)
  exact hagree.eq_map fun _ _ hlagged => hlagged

/-! ## Lags of formulas on variables -/

namespace Operand

/-- The operand with a lag, where a formula can say so: a variable gets one, and a lag gets longer. -/
def lagged (periods : Int) : Operand → Operand
  | .reference name number => .lag name periods number
  | .lag name earlier number => .lag name (earlier + periods) number
  | o => o

/-- Whether a formula can say that the operand is lagged: it is a variable, with no lag in the opposite
direction. -/
def Lags (periods : Int) : Operand → Prop
  | .reference _ _ => True
  | .lag _ earlier _ => Series.SameDirection earlier periods
  | _ => False

/-- A lag leaves the rows of a series as many as they are. -/
theorem checkLength_shift (env : Environment) (series : Series) (periods : Int) :
    env.checkLength (series.shift periods) = (env.checkLength series).map (·.shift periods) := by
  unfold Environment.checkLength
  rw [Series.length_shift]
  split <;> rfl

theorem series_lagged (env : Environment) (call : Call → Except EvaluationError Series)
    (definition : Nat → Except EvaluationError Series) {periods : Int} {o : Operand}
    (hlags : o.Lags periods) :
    (o.lagged periods).series env call definition =
      (o.series env call definition).map (·.shift periods) := by
  cases o with
  | reference name number =>
      rw [lagged, series, series, content, content]
      cases definition number with
      | error e => rfl
      | ok series =>
          show settle (env.checkLength (series.shift periods)) =
            (settle (env.checkLength series) : Except EvaluationError Series).map _
          rw [settle_eq, settle_eq, checkLength_shift]
  | lag name earlier number =>
      rw [lagged, series, series, content, content]
      cases definition number with
      | error e => rfl
      | ok series =>
          show settle (env.checkLength (series.shift (earlier + periods))) =
            (settle (env.checkLength (series.shift earlier)) :
              Except EvaluationError Series).map _
          rw [settle_eq, settle_eq, ← Series.shift_shift series hlags, checkLength_shift]
  | literal value => cases hlags
  | column name => cases hlags
  | call c => cases hlags

end Operand

/-- The node with a lag; operators have none. -/
def Node.lagged (periods : Int) : Node → Node
  | .operand o => .operand (o.lagged periods)
  | .operator op => .operator op

theorem reduce_lagged (operand : Operand → Except EvaluationError Series) (periods : Int)
    (nodes : List Node) (stack : List Series) :
    reduce operand (nodes.map (Node.lagged periods)) stack =
      reduce (fun o => operand (o.lagged periods)) nodes stack := by
  induction nodes generalizing stack with
  | nil =>
      match stack with
      | [] => rfl
      | [_] => rfl
      | _ :: _ :: _ => rfl
  | cons node rest ih =>
      rw [List.map_cons]
      cases node with
      | operand o =>
          rw [Node.lagged, reduce, reduce]
          simp only [ih]
      | operator op =>
          match stack with
          | [] => rfl
          | [_] => rfl
          | _ :: _ :: _ =>
              rw [Node.lagged, reduce, reduce]
              simp only [ih]

/-- The lag of a formula on variables is the formula on their lags. -/
theorem Environment.meaning_lagged (env : Environment) (definitions : List Formula)
    (source source' : String) {periods : Int} {nodes : List Node}
    (hlags : ∀ o, .operand o ∈ nodes → o.Lags periods) :
    env.meaning definitions ⟨source', nodes.map (Node.lagged periods)⟩ =
      (env.meaning definitions ⟨source, nodes⟩).map (·.shift periods) := by
  rw [meaning, meaning, reduce_lagged]
  exact reduce_shift fun o hmem => Operand.series_lagged env _ _ (hlags o hmem)

/-! ## The laws of lags -/

open Series

/-- **Lags add up and distribute over operators.**  A lag translates the rows and keeps their number
and their kind.  Two lags in one direction are the lag by their sum.  Every operator gives the lag of
its result for lagged operands, or the same failure, and so does every list of nodes; a formula on
variables can be lagged by lagging its variables. -/
theorem lags_add_and_distribute (periods : Int) :
    (∀ {α : Type} (rows : List (Option α)) (row : Nat), row < rows.length →
      (shiftRows rows periods)[row]? = some (entryAt rows (row - periods))) ∧
    (∀ series : Series, (series.shift periods).length = series.length ∧
      (series.shift periods).kind = series.kind) ∧
    (∀ (series : Series) (further : Int), SameDirection periods further →
      (series.shift periods).shift further = series.shift (periods + further)) ∧
    (∀ (op : Operator) (left right : Series),
      combine op (left.shift periods) (right.shift periods) =
        (combine op left right).map (·.shift periods)) ∧
    (∀ (operand : Operand → Except EvaluationError Series) (nodes : List Node),
      reduce (fun o => (operand o).map (·.shift periods)) nodes [] =
        (reduce operand nodes []).map (·.shift periods)) ∧
    ∀ (env : Environment) (definitions : List Formula) (source source' : String)
      (nodes : List Node), (∀ o, .operand o ∈ nodes → o.Lags periods) →
      env.meaning definitions ⟨source', nodes.map (Node.lagged periods)⟩ =
        (env.meaning definitions ⟨source, nodes⟩).map (·.shift periods) := by
  refine ⟨fun rows row hrow => ?_, fun series => ?_, fun series further hdirection => ?_, ?_, ?_, ?_⟩
  · have hrow' : row < (shiftRows rows periods).length := by rwa [length_shiftRows]
    rw [List.getElem?_eq_getElem hrow', ← entryAt_natCast hrow', entryAt_shiftRows rows periods hrow]
  · exact ⟨series.length_shift periods, series.kind_shift periods⟩
  · exact series.shift_shift hdirection
  · exact fun op left right => combine_shift op left right periods
  · exact fun operand nodes => reduce_shift fun _ _ => rfl
  · exact fun env definitions source source' nodes hlags =>
      env.meaning_lagged definitions source source' hlags

/-- A price on four days. -/
def fourPrices : Environment where
  frame := .ofBars ([1, 2, 2, 3].map fun close =>
    ⟨⟨0, false⟩, close, close, close, close, 1, close⟩)
  registry := .empty

/-- The nodes of `price > price.shift(1)`. -/
def risingPrice : List Node :=
  [.operand (.reference "price" 0), .operand (.lag "price" 1 0), .operator .gt]

theorem lags_add_and_distribute_risingPrice :
    let price : List Formula := [⟨"close", [.operand (.column "close")]⟩]
    let mask : Series := .truths [none, some true, some false, some true]
    fourPrices.meaning price ⟨"", risingPrice⟩ = .ok mask ∧
      (∀ o, .operand o ∈ risingPrice → o.Lags 2) ∧
      fourPrices.meaning price ⟨"", risingPrice.map (Node.lagged 2)⟩ = .ok (mask.shift 2) ∧
      mask.shift 2 = .truths [none, none, none, some true] ∧
      SameDirection 2 1 ∧ (mask.shift 2).shift 1 = mask.shift 3 ∧
      (mask.shift (-9223372036854775808)).length = 4 := by
  intro price mask
  have hmeaning : fourPrices.meaning price ⟨"", risingPrice⟩ = .ok mask := by rfl
  have hlags : ∀ o, .operand o ∈ risingPrice → o.Lags 2 := by
    intro o hmem
    simp only [risingPrice, List.mem_cons, Node.operand.injEq, reduceCtorEq, List.not_mem_nil,
      or_false] at hmem
    rcases hmem with rfl | rfl
    · trivial
    · exact .inl (by decide)
  have hdirection : SameDirection 2 1 := .inl (by decide)
  obtain ⟨-, -, hsum, -, -, hformula⟩ := lags_add_and_distribute 2
  obtain ⟨-, hkept, -⟩ := lags_add_and_distribute (-9223372036854775808)
  refine ⟨hmeaning, hlags, ?_, rfl, hdirection, hsum mask 1 hdirection, (hkept mask).1⟩
  rw [hformula fourPrices price "" "" risingPrice hlags, hmeaning]
  rfl

end Screener
