import Screener.Proofs.Formula.Definitions
import Screener.Proofs.Formula.RowSelection
import Screener.Proofs.Scan.Mask

/-!
# The rows of a snapshot

The rows of a snapshot belong to different tickers, and a condition looks at each of them on its own.
On a snapshot there are no indicators and no definitions, hence no lags, and everything else works row
by row.  So selected rows have the selected rows of the mask (`snapshotMask_select`), and of all the
rows a scan keeps those whose bar satisfies the condition alone (`screenSnapshot_snapshot`).

Whether the condition fails is not decided by any row: it is what happens on no rows.
-/

namespace Screener

/-! ## A condition looks at each row on its own -/

/-- Without definitions there is nothing that a lag could refer to. -/
theorem Session.keepsLags_start (R : Series → Series → Prop) (frame : Frame)
    (registry : Registry) (source : String) : (start frame registry).KeepsLags R source := by
  intro formula hformula name periods number hreaches
  exfalso
  -- a lag is compiled only if its name stands for a definition
  cases hreaches with
  | here hmem =>
      obtain ⟨lexeme, -, htoken⟩ := (Formula.arranges_of_compile hformula).exists_tokenOf hmem
      cases Scope.denotes_of_tokenOf htoken with
      | lag hparts hfind => cases hfind
  | through hmem hnumber hdefinition hreaches => cases hdefinition

theorem snapshotMask_selectedRows (selection : RowSelection) {frame frame' : Frame}
    (hbars : frame'.bars = selection.pick frame.bars) (condition : String) :
    Agree (SelectedRows selection frame) (snapshotMask frame condition)
      (snapshotMask frame' condition) := by
  have hrelated : Related (SelectedRows selection frame) ⟨frame, .empty⟩ ⟨frame', .empty⟩ :=
    SelectedRows.related hbars fun c => .error _
  exact snapshotMask_agree hrelated (Session.keepsLags_start _ frame .empty condition)

/-- Selected rows have the selected rows of the mask, and the same failure if there is no mask. -/
theorem snapshotMask_select (selection : RowSelection) {frame frame' : Frame}
    (hbars : frame'.bars = selection.pick frame.bars) (condition : String) :
    snapshotMask frame' condition =
      (snapshotMask frame condition).map (Series.select selection) :=
  (snapshotMask_selectedRows selection hbars condition).eq_map fun _ _ hselected =>
    hselected.select

theorem Series.isTrueAt_select_single (series : Series) (row : Nat) :
    (series.select (.single row)).isTrueAt 0 = series.isTrueAt row := by
  cases series with
  | numbers rows => rfl
  | truths rows =>
      show (rows[row]?.toList[0]? == _) = (rows[row]? == _)
      cases rows[row]? <;> rfl

/-! ## What a scan of a snapshot keeps -/

/-- Whether a condition is true on a bar alone. -/
def satisfies (condition : String) (bar : Bar Float) : Bool :=
  match ((Session.start (Frame.ofBars [bar]) .empty).evaluateCondition condition).1 with
  | .ok mask => mask.isTrueAt 0
  | .error _ => false

theorem satisfies_iff {condition : String} {bar : Bar Float} :
    satisfies condition bar = true ↔ ∃ mask,
      ((Session.start (Frame.ofBars [bar]) .empty).evaluateCondition condition).1 = .ok mask ∧
      mask.isTrueAt 0 = true := by
  rw [satisfies]
  cases ((Session.start (Frame.ofBars [bar]) .empty).evaluateCondition condition).1 with
  | error e =>
      constructor
      · intro hfalse
        cases hfalse
      · rintro ⟨mask, hmask, -⟩
        cases hmask
  | ok found =>
      constructor
      · intro htrue
        exact ⟨found, rfl, htrue⟩
      · rintro ⟨mask, hmask, htrue⟩
        cases hmask
        exact htrue

theorem satisfies_of_snapshotMask {condition : String} {bar : Bar Float} {mask : Series}
    (hmask : snapshotMask (Frame.ofBars [bar]) condition = .ok mask) :
    satisfies condition bar = mask.isTrueAt 0 := by
  have hevaluated := mapError_eq_ok hmask
  rw [satisfies, hevaluated]

/-- Rows that are kept by their places are those that a test of their own keeps, if the two say the
same of every row. -/
private theorem map_filter_zipIdx {α β : Type} (rows : List α) (label : α → β)
    (keepsPlace : Nat → Bool) (keeps : α → Bool) (start : Nat)
    (hkeeps : ∀ row a, rows[row]? = some a → keepsPlace (start + row) = keeps a) :
    (((rows.map label).zipIdx start).filter fun entry => keepsPlace entry.2).map Prod.fst =
      (rows.filter keeps).map label := by
  induction rows generalizing start with
  | nil => rfl
  | cons a rest ih =>
      have hfirst : keepsPlace start = keeps a := hkeeps 0 a rfl
      have hrest := ih (start + 1) fun row b hrow => by
        rw [Nat.add_assoc, Nat.add_comm 1 row]
        exact hkeeps (row + 1) b hrow
      rw [List.map_cons, List.zipIdx_cons, List.filter_cons, List.filter_cons, hfirst]
      cases keeps a with
      | true => exact congrArg (label a :: ·) hrest
      | false => exact hrest

/-- A scan of a snapshot fails as it does without rows, or it keeps the tickers whose own bar
satisfies the condition. -/
theorem screenSnapshot_snapshot (rows : List (String × Bar Float)) (condition : String) :
    screenSnapshot (Frame.snapshot rows) condition =
      (snapshotMask Frame.empty condition).map fun _ =>
        (rows.filter fun row => satisfies condition row.2).map Prod.fst := by
  have hnone : Frame.empty.bars = RowSelection.none.pick (Frame.snapshot rows).bars := rfl
  rw [screenSnapshot_eq_map, snapshotMask_select .none hnone]
  cases hmask : snapshotMask (Frame.snapshot rows) condition with
  | error e => rfl
  | ok mask =>
      -- the place of a row in the joint mask says what its bar says alone
      refine congrArg Except.ok (map_filter_zipIdx rows Prod.fst mask.isTrueAt _ 0 ?_)
      intro row entry hentry
      have hbars : (Frame.ofBars [entry.2]).bars =
          (RowSelection.single row).pick (Frame.snapshot rows).bars := by
        show [entry.2] = (rows.map Prod.snd)[row]?.toList
        rw [List.getElem?_map, hentry]
        rfl
      have halone := snapshotMask_select (.single row) hbars condition
      rw [hmask] at halone
      rw [Nat.zero_add, satisfies_of_snapshotMask halone, Series.isTrueAt_select_single]

end Screener
