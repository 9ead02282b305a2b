import Screener.Proofs.Formula.Sessions
import Screener.Scan.Condition

/-!
# The masks of conditions

A condition gives a mask, one truth value for each row, and a scan reads the rows of the mask that
it is interested in: all of a snapshot, the last of a history.  Whether there is a mask and what it
is on two frames follows from what holds of formulas on two frames.
-/

namespace Screener

/-- The mask of a condition on a snapshot. -/
def snapshotMask (snapshot : Frame) (condition : String) : Except Failure Series :=
  ((Session.start snapshot .empty).evaluateCondition condition).1.mapError
    (.expression "1st_scan.condition")

/-- The mask of the condition of a rule, after its declarations. -/
def HistoryRule.mask (rule : HistoryRule) (frame : Frame) (registry : Registry) :
    Except Failure Series := do
  let session ← rule.declarations.foldlM Session.declare (Session.start frame registry)
  (session.evaluateCondition rule.condition).1.mapError (.expression "2nd_scan.condition")

theorem screenSnapshot_eq_map (snapshot : Frame) (condition : String) :
    screenSnapshot snapshot condition =
      (snapshotMask snapshot condition).map fun mask =>
        ((snapshot.tickers.getD []).zipIdx.filter fun (_, row) =>
          mask.isTrueAt row).map Prod.fst := by
  rw [screenSnapshot, ← snapshotMask]
  cases snapshotMask snapshot condition <;> rfl

theorem matchesLatestBar_eq_map (frame : Frame) (registry : Registry) (rule : HistoryRule) :
    matchesLatestBar frame registry rule = (rule.mask frame registry).map Series.lastIsTrue := by
  have hlast : ∀ result : Except Failure Series,
      (do let mask ← result; return mask.lastIsTrue) = result.map Series.lastIsTrue := by
    intro result
    cases result <;> rfl
  rw [matchesLatestBar, HistoryRule.mask]
  cases rule.declarations.foldlM Session.declare (Session.start frame registry) with
  | error e => rfl
  | ok session => exact hlast _

variable {env env' : Environment} {R : Series → Series → Prop}

/-- The same declarations leave sessions that are alike, or fail alike. -/
theorem Session.Alike.declare {session session' : Session}
    (halike : Alike env env' session session') (declarations : List Declaration) :
    Agree (Alike env env') (declarations.foldlM Session.declare session)
      (declarations.foldlM Session.declare session') := by
  induction declarations generalizing session session' with
  | nil => exact .ok halike
  | cons declaration rest ih =>
      rw [List.foldlM_cons, List.foldlM_cons]
      have hfirst := (halike.define declaration.name declaration.expression).mapError
        (Failure.expression ("variable " ++ declaration.name))
      exact Agree.bind hfirst fun next next' hnext => ih hnext

theorem snapshotMask_agree {frame frame' : Frame}
    (hrelated : Related R ⟨frame, .empty⟩ ⟨frame', .empty⟩) {condition : String}
    (hlags : (Session.start frame .empty).KeepsLags R condition) :
    Agree R (snapshotMask frame condition) (snapshotMask frame' condition) :=
  ((Session.alike_start frame frame' .empty).evaluateCondition hrelated hlags).mapError _

theorem HistoryRule.mask_agree_of_names {frame frame' : Frame} {registry registry' : Registry}
    (rule : HistoryRule) (hnames : ∀ name, registry'.contains name = registry.contains name)
    (hrelated : Related R ⟨frame, registry⟩ ⟨frame', registry'⟩)
    (hlags : ∀ session,
      rule.declarations.foldlM Session.declare (Session.start frame registry) = .ok session →
      session.KeepsLags R rule.condition) :
    Agree R (rule.mask frame registry) (rule.mask frame' registry') := by
  have halike := (Session.alike_start_of_names frame frame' hnames).declare rule.declarations
  exact Agree.bind_of_eq_ok halike fun session session' hsession hnext =>
    (hnext.evaluateCondition hrelated (hlags session hsession)).mapError _

theorem HistoryRule.mask_agree {frame frame' : Frame} {registry : Registry} (rule : HistoryRule)
    (hrelated : Related R ⟨frame, registry⟩ ⟨frame', registry⟩)
    (hlags : ∀ session,
      rule.declarations.foldlM Session.declare (Session.start frame registry) = .ok session →
      session.KeepsLags R rule.condition) :
    Agree R (rule.mask frame registry) (rule.mask frame' registry) :=
  rule.mask_agree_of_names (fun _ => rfl) hrelated hlags

end Screener
