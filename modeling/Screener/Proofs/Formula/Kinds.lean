import Screener.Formula.Combine

/-!
# Kinds of results

Whether an operator takes two series of the same length, and whether it gives numbers or truth
values then, is decided by the kinds of the two series (`Operator.kind?`): their entries do not
matter.  The result has the length of the operands, and its kind depends on the operator only
(`Operator.gives`).
-/

namespace Screener

/-- The kind of what an operator gives for operands of two kinds, if it takes them. -/
def Operator.kind? (op : Operator) (left right : Series.Kind) : Option Series.Kind :=
  match left, right, op with
  | .number, .number, .and | .number, .number, .or => none
  | .number, .number, .add | .number, .number, .sub => some .number
  | .number, .number, .mul | .number, .number, .div => some .number
  | .number, .number, _ => some .boolean
  | .boolean, .boolean, .and | .boolean, .boolean, .or => some .boolean
  | .boolean, .boolean, .eq | .boolean, .boolean, .ne => some .boolean
  | _, _, _ => none

/-- The kind of what an operator gives: arithmetic gives numbers, comparisons and `AND` and `OR`
give truth values. -/
def Operator.gives : Operator → Series.Kind
  | .add | .sub | .mul | .div => .number
  | _ => .boolean

theorem Operator.gives_of_kind? {op : Operator} {left right kind : Series.Kind}
    (hkind : op.kind? left right = some kind) : kind = op.gives := by
  cases op <;> cases left <;> cases right <;> cases hkind <;> rfl

namespace Series

theorem onNumbers?_of_kind {op : Operator} {left right : List (Option Float)} {kind : Kind}
    (hlength : left.length = right.length) (hkind : op.kind? .number .number = some kind) :
    ∃ result, onNumbers? op left right = some result ∧ result.kind = kind ∧
      result.length = left.length := by
  cases op <;> cases hkind <;> refine ⟨_, rfl, ?_⟩ <;> simp [kind, length, hlength]

theorem onTruths?_of_kind {op : Operator} {left right : List (Option Bool)} {kind : Kind}
    (hlength : left.length = right.length) (hkind : op.kind? .boolean .boolean = some kind) :
    ∃ result, onTruths? op left right = some result ∧ result.kind = kind ∧
      result.length = left.length := by
  cases op <;> cases hkind <;> refine ⟨_, rfl, ?_⟩ <;> simp [kind, length, hlength]

/-- An operator that takes the kinds of two series of one length gives a series of that length. -/
theorem combine_of_kind {op : Operator} {left right : Series} {kind : Kind}
    (hlength : left.length = right.length) (hkind : op.kind? left.kind right.kind = some kind) :
    ∃ result, combine op left right = .ok result ∧ result.kind = kind ∧
      result.length = left.length := by
  unfold combine
  rw [if_neg (by omega)]
  cases left with
  | numbers l =>
      cases right with
      | numbers r =>
          obtain ⟨result, hresult, hshape⟩ := onNumbers?_of_kind hlength hkind
          exact ⟨result, by simp only [hresult], hshape⟩
      | truths r => cases op <;> cases hkind
  | truths l =>
      cases right with
      | numbers r => cases op <;> cases hkind
      | truths r =>
          obtain ⟨result, hresult, hshape⟩ := onTruths?_of_kind hlength hkind
          exact ⟨result, by simp only [hresult], hshape⟩

/-- An operator that does not take the kinds of two series says so, naming the kinds. -/
theorem combine_of_kind_eq_none {op : Operator} {left right : Series}
    (hlength : left.length = right.length) (hkind : op.kind? left.kind right.kind = none) :
    combine op left right = .error (mismatch op left right) := by
  unfold combine
  rw [if_neg (by omega)]
  cases left with
  | numbers l =>
      cases right with
      | numbers r => cases op <;> cases hkind <;> rfl
      | truths r => rfl
  | truths l =>
      cases right with
      | numbers r => rfl
      | truths r => cases op <;> cases hkind <;> rfl

theorem length_of_combine_eq_ok {op : Operator} {left right result : Series}
    (hlength : left.length = right.length) (hresult : combine op left right = .ok result) :
    result.length = left.length := by
  cases hkind : op.kind? left.kind right.kind with
  | none =>
      rw [combine_of_kind_eq_none hlength hkind] at hresult
      cases hresult
  | some kind =>
      obtain ⟨result', hresult', _, hresultLength⟩ := combine_of_kind hlength hkind
      rw [hresult'] at hresult
      cases hresult
      exact hresultLength

theorem kind_of_combine_eq_ok {op : Operator} {left right result : Series}
    (hresult : combine op left right = .ok result) : result.kind = op.gives := by
  have hlength : left.length = right.length := by
    unfold combine at hresult
    split at hresult
    · cases hresult
    · omega
  cases hkind : op.kind? left.kind right.kind with
  | none =>
      rw [combine_of_kind_eq_none hlength hkind] at hresult
      cases hresult
  | some kind =>
      obtain ⟨result', hresult', hresultKind, _⟩ := combine_of_kind hlength hkind
      rw [hresult'] at hresult
      cases hresult
      rw [hresultKind]
      exact op.gives_of_kind? hkind

end Series

end Screener
