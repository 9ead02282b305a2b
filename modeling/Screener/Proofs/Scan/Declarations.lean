import Screener.Proofs.Formula.Names
import Screener.Proofs.Scan.Validation

/-!
# Declarations that can be used

What a definition is worth that a session makes, and each declaration of rules that pass the trial
without data: it binds its name as `Session.Binds` says (`Session.binds_of_define`).  Names are not
looked at when a definition is made, so the declarations that formulas can refer to are those with a
name that is read as a variable and those with a name without points and blank characters; any other
declaration is made and never used.

## Strategy

Sessions that have been asked questions and sessions that have made declarations are `Orderly`,
which is all that `Orderly.binds` asks for.  The declarations of rules that pass are made on all
frames, since they are made on one.
-/

namespace Screener

theorem define_of_declare {session next : Session} {declaration : Declaration}
    (hdeclare : session.declare declaration = .ok next) :
    session.define declaration.name declaration.expression = .ok next :=
  mapError_eq_ok hdeclare

/-- Declarations that are made leave an orderly session. -/
theorem Session.Orderly.declarations {session next : Session} (horderly : session.Orderly)
    {declarations : List Declaration}
    (hdeclarations : declarations.foldlM declare session = .ok next) : next.Orderly := by
  induction declarations generalizing session with
  | nil =>
      cases hdeclarations
      exact horderly
  | cons declaration rest ih =>
      rw [List.foldlM_cons] at hdeclarations
      obtain ⟨between, hdeclare, hrest⟩ := bind_eq_ok hdeclarations
      exact ih (horderly.define (define_of_declare hdeclare)) hrest

/-- The rules that pass the trial declare without failures, on any rows. -/
theorem Rules.exists_declared {rules : Rules}
    (hvalidate : validateExpressions rules .standard = .ok ()) {rule : HistoryRule}
    (hrule : rule ∈ rules.history) (frame : Frame) :
    ∃ session, rule.declarations.foldlM Session.declare (Session.start frame .standard) =
      .ok session := by
  have htrial := ((validateExpressions_eq_ok_iff rules .standard).mp hvalidate).2 rule hrule
  have hagree := matchesLatestBar_agree Registry.regular_standard.uniform frame Frame.empty rule
  obtain ⟨answer, hanswer⟩ := hagree.exists_ok htrial
  obtain ⟨session, hsession, -⟩ := bind_eq_ok hanswer
  exact ⟨session, hsession⟩

namespace Session

/-- **What a definition is worth.**  Whatever a session has been asked before, a definition that it
makes binds its name; and so does every declaration of rules that pass the trial without data, on
all frames. -/
theorem binds_of_define (frame : Frame) :
    (∀ (registry : Registry) (questions : List Question) (name source : String) (next : Session),
      ((start frame registry).asked questions).define name source = .ok next →
        Binds ((start frame registry).asked questions) name source next) ∧
    ∀ rules : Rules, validateExpressions rules .standard = .ok () → ∀ rule ∈ rules.history,
      ∀ before declaration after, rule.declarations = before ++ declaration :: after →
        ∃ session next, before.foldlM declare (start frame .standard) = .ok session ∧
          session.define declaration.name declaration.expression = .ok next ∧
          Binds session declaration.name declaration.expression next := by
  constructor
  · intro registry questions name source next hdefine
    exact (orderly_asked (orderly_start frame registry) questions).binds hdefine
  · intro rules hvalidate rule hrule before declaration after hsplit
    obtain ⟨last, hlast⟩ := Rules.exists_declared hvalidate hrule frame
    rw [hsplit, List.foldlM_append] at hlast
    obtain ⟨session, hsession, hrest⟩ := bind_eq_ok hlast
    rw [List.foldlM_cons] at hrest
    obtain ⟨next, hnext, -⟩ := bind_eq_ok hrest
    have hdefine := define_of_declare hnext
    have horderly := (orderly_start frame .standard).declarations hsession
    exact ⟨session, next, hsession, hdefine, horderly.binds hdefine⟩

/-- The name `flow` is defined anew through its older definition, and evaluated. -/
theorem binds_of_define_flow :
    let session := (start Frame.empty .standard).asked [.define "flow" "obv()", .evaluate "flow"]
    ∃ next, session.define "flow" "flow - flow.shift(5)" = .ok next ∧
      (next.evaluate "flow").1 = (session.evaluate "flow - flow.shift(5)").1 ∧
      (next.evaluate "flow.shift(-2)").1 =
        (session.evaluate "flow - flow.shift(5)").1.map (·.shift (-2)) := by
  intro session
  have hname : Scope.IsName "flow" :=
    ⟨by decide, Scope.solid_of_all (by decide), by decide +kernel, by decide, by decide, by decide,
      by decide⟩
  have hdefined : (session.define "flow" "flow - flow.shift(5)").toBool = true := by
    decide +kernel
  obtain ⟨next, hdefine⟩ := exists_of_toBool hdefined
  have hbinds := (binds_of_define Frame.empty).1 .standard _ _ _ next hdefine
  have hlags := hbinds.lag hname.isWord (by decide) (-2) (by decide) (by decide)
  have hlag : Scope.lagOf "flow" (-2) = "flow.shift(-2)" := by decide +kernel
  rw [hlag] at hlags
  exact ⟨next, hdefine, hbinds.named hname, hlags⟩

/-- Rules with a declaration whose name goes on to be a number. -/
def misnamed : Rules where
  history := some
    { declarations := [⟨"1.5", "open > high"⟩]
      condition := "close > 1.5" }

/-- A definition may be made that its name does not stand for, and that nothing can refer to. -/
theorem not_usable_of_define :
    validateExpressions misnamed .standard = .ok () ∧
      ∃ next, (start Frame.empty .standard).define "1.5" "open > high" = .ok next ∧
        (next.evaluate "1.5").1 ≠ ((start Frame.empty .standard).evaluate "open > high").1 ∧
        ¬next.scope.Refers 0 := by
  refine ⟨by decide +kernel, ?_⟩
  have hdefined : ((start Frame.empty .standard).define "1.5" "open > high").toBool = true := by
    decide +kernel
  obtain ⟨next, hdefine⟩ := exists_of_toBool hdefined
  have hasked : (start Frame.empty .standard).asked [.define "1.5" "open > high"] = next := by
    show ((start Frame.empty .standard).ask _).2 = next
    rw [ask, hdefine]
  refine ⟨next, hdefine, fun heq => ?_, fun hrefers => ?_⟩
  · -- the name still gives a number, but its text gives truth values
    have hkinds := congrArg (Except.map Series.kind) heq
    rw [← hasked] at hkinds
    exact absurd hkinds (by decide +kernel)
  · have hbinds := (orderly_start Frame.empty .standard).binds hdefine
    rcases hbinds.refers.mp hrefers with hname | ⟨-, hpoint⟩
    · exact absurd hname.number (by decide +kernel)
    · exact absurd hpoint (by decide)

end Session

end Screener
