import Screener.Proofs.Formula.Agreement
import Screener.Proofs.Formula.Kinds

/-!
# Selected rows

Operators work row by row, so it makes no difference whether rows are selected before or after they
are applied (`Series.combine_select`).  A selection is whatever may be done to columns of any type
in this way: to keep the first rows, to keep one row, to keep none.

So whatever is calculated on the selected rows of a frame gives the selected rows of what it gives on
the frame, if the indicators and the lags do (`SelectedRows.related`).
-/

namespace Screener

/-- A way to select rows, by their places and not by their entries. -/
structure RowSelection where
  /-- The selected entries of a column. -/
  pick : {α : Type} → List α → List α
  /-- Two columns may be joined before or after the selection. -/
  pick_zipWith : ∀ {α β γ : Type} (f : α → β → γ) (left : List α) (right : List β),
    pick (List.zipWith f left right) = List.zipWith f (pick left) (pick right)

namespace RowSelection

/-- The first `n` rows. -/
def first (n : Nat) : RowSelection where
  pick := List.take n
  pick_zipWith _ _ _ := List.take_zipWith

/-- The row with a number, if there is one. -/
def single (row : Nat) : RowSelection where
  pick column := column[row]?.toList
  pick_zipWith f left right := by
    rw [List.getElem?_zipWith]
    cases left[row]? with
    | none => rfl
    | some a => cases right[row]? <;> rfl

/-- No row. -/
def none : RowSelection where
  pick _ := []
  pick_zipWith _ _ _ := rfl

variable (selection : RowSelection) {α β : Type}

theorem pick_map (f : α → β) (column : List α) :
    selection.pick (column.map f) = (selection.pick column).map f := by
  have hjoined := selection.pick_zipWith (fun a _ : α => f a) column column
  rw [List.zipWith_self, List.zipWith_self] at hjoined
  exact hjoined

/-- Columns of one length have one length after the selection. -/
theorem length_pick {left : List α} {right : List β} (hlength : left.length = right.length) :
    (selection.pick left).length = (selection.pick right).length := by
  have hunits : left.map (fun _ => ()) = right.map (fun _ => ()) := by
    rw [List.map_const', List.map_const', hlength]
  have hpicked := congrArg (fun column => (selection.pick column).length) hunits
  simpa only [pick_map, List.length_map] using hpicked

/-- A column with one entry in all rows has it in all selected rows. -/
theorem pick_replicate (a : α) (column : List β) :
    selection.pick (List.replicate column.length a) =
      List.replicate (selection.pick column).length a := by
  rw [← List.map_const', pick_map, List.map_const']

end RowSelection

namespace Series

variable (selection : RowSelection)

/-- The selected rows of a series. -/
def select (series : Series) : Series :=
  match series with
  | numbers rows => numbers (selection.pick rows)
  | truths rows => truths (selection.pick rows)

theorem kind_select (series : Series) : (series.select selection).kind = series.kind := by
  cases series <;> rfl

theorem length_select {α : Type} {series : Series} {column : List α}
    (hlength : series.length = column.length) :
    (series.select selection).length = (selection.pick column).length := by
  cases series <;> exact selection.length_pick hlength

theorem onNumbers?_select (op : Operator) (left right : List (Option Float)) :
    onNumbers? op (selection.pick left) (selection.pick right) =
      (onNumbers? op left right).map (select selection) := by
  cases op <;> simp [onNumbers?, zipPresent, select, selection.pick_zipWith]

theorem onTruths?_select (op : Operator) (left right : List (Option Bool)) :
    onTruths? op (selection.pick left) (selection.pick right) =
      (onTruths? op left right).map (select selection) := by
  cases op <;> simp [onTruths?, zipPresent, select, selection.pick_zipWith]

/-- Operators work row by row. -/
theorem combine_select (op : Operator) {left right : Series}
    (hlength : left.length = right.length) :
    combine op (left.select selection) (right.select selection) =
      (combine op left right).map (select selection) := by
  have hlength' : (left.select selection).length = (right.select selection).length := by
    cases right <;> exact length_select selection hlength
  have hmismatch : mismatch op (left.select selection) (right.select selection) =
      mismatch op left right := by
    rw [mismatch, mismatch, kind_select, kind_select]
  unfold combine
  rw [if_neg (not_not_intro hlength), if_neg (not_not_intro hlength'), hmismatch]
  cases left with
  | numbers l =>
      cases right with
      | numbers r =>
          simp only [select, onNumbers?_select]
          cases onNumbers? op l r <;> rfl
      | truths r => rfl
  | truths l =>
      cases right with
      | numbers r => rfl
      | truths r =>
          simp only [select, onTruths?_select]
          cases onTruths? op l r <;> rfl

end Series

/-- A series with one entry for each row of its frame, and the selected rows of it. -/
structure SelectedRows (selection : RowSelection) (frame : Frame) (s s' : Series) : Prop where
  length : s.length = frame.size
  select : s' = s.select selection

namespace SelectedRows

variable {selection : RowSelection} {frame frame' : Frame}

theorem combine (op : Operator) {left right left' right' : Series}
    (hleft : SelectedRows selection frame left left')
    (hright : SelectedRows selection frame right right') :
    Agree (SelectedRows selection frame) (Series.combine op left right)
      (Series.combine op left' right') := by
  have hlength : left.length = right.length := hleft.length.trans hright.length.symm
  rw [hleft.select, hright.select, Series.combine_select selection op hlength]
  cases hresult : Series.combine op left right with
  | error e => exact .error e
  | ok result =>
      have hresultLength := Series.length_of_combine_eq_ok hlength hresult
      exact .ok ⟨hresultLength.trans hleft.length, rfl⟩

theorem related {registry : Registry} (hbars : frame'.bars = selection.pick frame.bars)
    (hcall : ∀ c, Agree (SelectedRows selection frame)
      (Environment.compute ⟨frame, registry⟩ c) (Environment.compute ⟨frame', registry⟩ c)) :
    Related (SelectedRows selection frame) ⟨frame, registry⟩ ⟨frame', registry⟩ where
  kind hselected := by rw [hselected.select, Series.kind_select]
  length hselected := by
    refine ⟨hselected.length, ?_⟩
    rw [hselected.select, Series.length_select selection hselected.length, ← hbars]
    rfl
  combine := combine
  literal value := by
    refine ⟨List.length_replicate, congrArg Series.numbers ?_⟩
    rw [Frame.size, Frame.size, hbars, selection.pick_replicate]
  column read := by
    refine ⟨?_, congrArg Series.numbers ?_⟩
    · simp [Series.ofNumbers, Series.length, Frame.size]
    · rw [hbars, selection.pick_map, selection.pick_map]
  call := hcall

end SelectedRows

end Screener
