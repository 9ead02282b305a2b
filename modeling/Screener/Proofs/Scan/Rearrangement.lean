import Mathlib.Data.Finset.Lattice.Lemmas
import Screener.Proofs.Formula.Standing
import Screener.Proofs.Scan.Declarations
import Screener.Proofs.Scan.Mask

/-!
# Declarations in another order

Two declarations next to each other may change places if neither text mentions the name of the
other: the rule gives the same answer, or fails as before.  A declaration may be left out if nothing
that could see it mentions its name: no text of a later declaration until the name is declared anew,
nor the condition if it never is (`matchesLatestBar_rearranged`).

## Strategy

A declaration makes a session that differs in its name only.  A difference in names stays what it is
while declarations are made whose texts do not mention them, until they are declared anew (`Idle`,
`Session.SameBut.maskAfter_eq`).  Leaving a declaration out is one such difference.  For two
declarations that change places, the sessions with both of them differ from the session with the
first only in the name of the second, and from the one with the second only in the name of the
first; so they do not differ from each other at all (`Session.Orderly.exists_swapped`).
-/

namespace Screener

/-- Whether nothing sees what the names stood for before: none of them is mentioned in the text of a
declaration, up to the one that declares it anew and in that one too, or, if there is none, in the
condition. -/
def Idle (hidden : Finset String) (condition : String) : List Declaration → Prop
  | [] => ∀ name ∈ hidden, ¬Mentions condition name
  | declaration :: rest =>
    (∀ name ∈ hidden, ¬Mentions declaration.expression name) ∧
      Idle (hidden.erase declaration.name) condition rest

instance Idle.decidable (hidden : Finset String) (condition : String) :
    (declarations : List Declaration) → Decidable (Idle hidden condition declarations)
  | [] => inferInstanceAs (Decidable (∀ name ∈ hidden, ¬Mentions condition name))
  | declaration :: rest =>
    have := Idle.decidable (hidden.erase declaration.name) condition rest
    inferInstanceAs (Decidable ((∀ name ∈ hidden, ¬Mentions declaration.expression name) ∧
      Idle (hidden.erase declaration.name) condition rest))

theorem idle_empty (condition : String) (declarations : List Declaration) :
    Idle ∅ condition declarations := by
  induction declarations with
  | nil => simp [Idle]
  | cons declaration rest ih => simpa [Idle] using ih

namespace Session

/-- The mask of a condition after declarations. -/
def maskAfter (session : Session) (declarations : List Declaration) (condition : String) :
    Except Failure Series := do
  let last ← declarations.foldlM declare session
  (last.evaluateCondition condition).1.mapError (.expression "2nd_scan.condition")

variable {session session' : Session}

theorem maskAfter_append (session : Session) (first second : List Declaration)
    (condition : String) :
    session.maskAfter (first ++ second) condition =
      first.foldlM declare session >>= fun next => next.maskAfter second condition := by
  rw [maskAfter, List.foldlM_append, bind_assoc]
  rfl

theorem maskAfter_cons (session : Session) (declaration : Declaration) (rest : List Declaration)
    (condition : String) :
    session.maskAfter (declaration :: rest) condition =
      session.declare declaration >>= fun next => next.maskAfter rest condition := by
  rw [maskAfter, List.foldlM_cons, bind_assoc]
  rfl

namespace SameBut

variable {hidden : Finset String}

theorem declare (hsame : SameBut hidden session session') (declaration : Declaration)
    (hfree : ∀ name ∈ hidden, ¬Mentions declaration.expression name) :
    Agree (SameBut (hidden.erase declaration.name)) (session.declare declaration)
      (session'.declare declaration) :=
  (hsame.define declaration.name hfree).mapError _

/-- Names that nothing mentions may stand for anything. -/
theorem maskAfter_eq (hsame : SameBut hidden session session') {declarations : List Declaration}
    {condition : String} (hidle : Idle hidden condition declarations) :
    session'.maskAfter declarations condition = session.maskAfter declarations condition := by
  induction declarations generalizing hidden session session' with
  | nil => exact congrArg (Except.mapError _) (hsame.evaluateCondition hidle)
  | cons declaration rest ih =>
      rw [maskAfter_cons, maskAfter_cons]
      generalize session.declare declaration = next, session'.declare declaration = next',
        hsame.declare declaration hidle.1 = hdeclare
      cases hdeclare with
      | error e => rfl
      | ok hnext => exact ih hnext hidle.2

end SameBut

/-! ## Two declarations -/

theorem Orderly.sameBut_declare (horderly : session.Orderly) {declaration : Declaration}
    {next : Session} (hdeclare : session.declare declaration = .ok next) :
    SameBut {declaration.name} session next :=
  horderly.sameBut_define (define_of_declare hdeclare)

/-- A declaration that does not mention the name of another one is made with it as without it. -/
theorem Orderly.declare_agree (horderly : session.Orderly) {first second : Declaration}
    (hne : first.name ≠ second.name) (hfree : ¬Mentions second.expression first.name)
    {between : Session} (hbetween : session.declare first = .ok between) :
    Agree (SameBut {first.name}) (session.declare second) (between.declare second) := by
  have hmade := (horderly.sameBut_declare hbetween).declare second (by simpa using hfree)
  rwa [Finset.erase_eq_of_notMem (by simpa using hne.symm)] at hmade

/-- Two declarations that do not mention each other can be made in the other order too, and it makes
no difference. -/
theorem Orderly.exists_swapped (horderly : session.Orderly) {first second : Declaration}
    (hne : first.name ≠ second.name) (hfirst : ¬Mentions first.expression second.name)
    (hsecond : ¬Mentions second.expression first.name) {between last : Session}
    (hbetween : session.declare first = .ok between) (hlast : between.declare second = .ok last) :
    ∃ between' last', session.declare second = .ok between' ∧
      between'.declare first = .ok last' ∧ SameBut ∅ last last' := by
  obtain ⟨between', hbetween', hwithout⟩ :=
    (horderly.declare_agree hne hsecond hbetween).exists_ok_left hlast
  obtain ⟨last', hlast', hwithout'⟩ :=
    (horderly.declare_agree hne.symm hfirst hbetween').exists_ok_right hbetween
  refine ⟨between', last', hbetween', hlast', ?_⟩
  have hmade := (horderly.sameBut_declare hbetween).orderly'.sameBut_declare hlast
  have hmade' := (horderly.sameBut_declare hbetween').orderly'.sameBut_declare hlast'
  -- seen from the session with one of them only, the name of the other may differ
  have hsame := (hwithout.symm.trans hmade').inter (hmade.symm.trans hwithout')
  rwa [Finset.singleton_inter_of_notMem (by simpa using hne)] at hsame

/-- Two declarations that do not mention each other may change places before any others. -/
theorem Orderly.maskAfter_swapped (horderly : session.Orderly) {first second : Declaration}
    (hne : first.name ≠ second.name) (hfirst : ¬Mentions first.expression second.name)
    (hsecond : ¬Mentions second.expression first.name) {later : List Declaration}
    {condition : String} {mask : Series}
    (hmask : session.maskAfter (first :: second :: later) condition = .ok mask) :
    session.maskAfter (second :: first :: later) condition = .ok mask := by
  rw [maskAfter_cons] at hmask
  obtain ⟨between, hbetween, hmask⟩ := bind_eq_ok hmask
  rw [maskAfter_cons] at hmask
  obtain ⟨last, hlast, hmask⟩ := bind_eq_ok hmask
  obtain ⟨between', last', hbetween', hlast', hsame⟩ :=
    horderly.exists_swapped hne hfirst hsecond hbetween hlast
  calc session.maskAfter (second :: first :: later) condition
      = last'.maskAfter later condition := by
        rw [maskAfter_cons, hbetween']
        show between'.maskAfter (first :: later) condition = _
        rw [maskAfter_cons, hlast']
        rfl
    _ = last.maskAfter later condition := hsame.maskAfter_eq (idle_empty condition later)
    _ = .ok mask := hmask

/-- A declaration that nothing later mentions may be left out. -/
theorem Orderly.maskAfter_without (horderly : session.Orderly) {declaration : Declaration}
    {later : List Declaration} {condition : String}
    (hidle : Idle {declaration.name} condition later) {mask : Series}
    (hmask : session.maskAfter (declaration :: later) condition = .ok mask) :
    session.maskAfter later condition = .ok mask := by
  rw [maskAfter_cons] at hmask
  obtain ⟨next, hnext, hmask⟩ := bind_eq_ok hmask
  rw [← (horderly.sameBut_declare hnext).maskAfter_eq hidle]
  exact hmask

end Session

/-! ## Rules -/

/-- A change of the later declarations that keeps the masks keeps the answers of a rule. -/
theorem matchesLatestBar_eq_ok_of_mask (frame : Frame) (registry : Registry) (rule : HistoryRule)
    (before : List Declaration) {later later' : List Declaration}
    (hmask : ∀ session : Session, session.Orderly → ∀ mask,
      session.maskAfter later rule.condition = .ok mask →
        session.maskAfter later' rule.condition = .ok mask) {answer : Bool}
    (hanswer : matchesLatestBar frame registry { rule with declarations := before ++ later } =
      .ok answer) :
    matchesLatestBar frame registry { rule with declarations := before ++ later' } =
      .ok answer := by
  have hrule : ∀ declarations,
      HistoryRule.mask { rule with declarations := declarations } frame registry =
        (Session.start frame registry).maskAfter declarations rule.condition := fun _ => rfl
  rw [matchesLatestBar_eq_map, hrule, Session.maskAfter_append] at hanswer ⊢
  obtain ⟨mask, hfound, rfl⟩ := map_eq_ok hanswer
  obtain ⟨session, hsession, hfound⟩ := bind_eq_ok hfound
  have horderly := (Session.orderly_start frame registry).declarations hsession
  rw [hsession]
  show (session.maskAfter later' rule.condition).map Series.lastIsTrue = _
  rw [hmask session horderly mask hfound]
  rfl

/-- **Declarations in another order.**  Two declarations next to each other that do not mention each
other may change places: an answer stays the same and a failure stays a failure.  An answer also
stays the same if a declaration is left out whose name nothing mentions before it is declared
anew. -/
theorem matchesLatestBar_rearranged (frame : Frame) (registry : Registry) (rule : HistoryRule)
    (before after : List Declaration) :
    let answerOf declarations :=
      matchesLatestBar frame registry { rule with declarations := declarations }
    (∀ first second : Declaration, first.name ≠ second.name →
      ¬Mentions first.expression second.name → ¬Mentions second.expression first.name →
        (∀ answer, answerOf (before ++ first :: second :: after) = .ok answer →
          answerOf (before ++ second :: first :: after) = .ok answer) ∧
        ∀ e, answerOf (before ++ first :: second :: after) = .error e →
          ∃ e', answerOf (before ++ second :: first :: after) = .error e') ∧
    ∀ declaration : Declaration, Idle {declaration.name} rule.condition after →
      ∀ answer, answerOf (before ++ declaration :: after) = .ok answer →
        answerOf (before ++ after) = .ok answer := by
  intro answerOf
  have hswap : ∀ first second : Declaration, first.name ≠ second.name →
      ¬Mentions first.expression second.name → ¬Mentions second.expression first.name →
        ∀ answer, answerOf (before ++ first :: second :: after) = .ok answer →
          answerOf (before ++ second :: first :: after) = .ok answer := by
    intro first second hne hfirst hsecond answer
    apply matchesLatestBar_eq_ok_of_mask
    intro session horderly mask
    exact horderly.maskAfter_swapped hne hfirst hsecond
  refine ⟨fun first second hne hfirst hsecond => ⟨hswap _ _ hne hfirst hsecond, ?_⟩, ?_⟩
  · -- an answer after the exchange would be one before it
    intro e herror
    cases hswapped : answerOf (before ++ second :: first :: after) with
    | error e' => exact ⟨e', rfl⟩
    | ok answer =>
        rw [hswap _ _ hne.symm hsecond hfirst answer hswapped] at herror
        cases herror
  · intro declaration hidle answer
    apply matchesLatestBar_eq_ok_of_mask
    intro session horderly mask
    exact horderly.maskAfter_without hidle

/-- The name `spare` is declared anew before anything mentions it, and its first text does not mention
`fast`. -/
theorem matchesLatestBar_rearranged_threeRises :
    let slow : Declaration := ⟨"slow", "ma(2)"⟩
    let fast : Declaration := ⟨"fast", "ma(1)"⟩
    let spare : Declaration := ⟨"spare", "slow.shift(1)"⟩
    let misspelt : Declaration := ⟨"spare", "slwo.shift(1)"⟩
    let after : List Declaration := [⟨"gap", "fast - slow.shift(1)"⟩, ⟨"spare", "high - low"⟩]
    let condition := "gap > 0 AND spare < fast"
    let answerOf declarations :=
      matchesLatestBar threeRises .standard { declarations := declarations, condition := condition }
    fast.name ≠ spare.name ∧ ¬Mentions fast.expression spare.name ∧
      ¬Mentions spare.expression fast.name ∧ Idle {spare.name} condition after ∧
      answerOf (slow :: fast :: spare :: after) = .ok true ∧
      answerOf (slow :: spare :: fast :: after) = .ok true ∧
      answerOf (slow :: spare :: after) ≠ .ok true ∧
      answerOf (slow :: fast :: after) = .ok true ∧
      ¬Mentions misspelt.expression fast.name ∧
      ∃ e e', answerOf (slow :: fast :: misspelt :: after) = .error e ∧
        answerOf (slow :: misspelt :: fast :: after) = .error e' := by
  intro slow fast spare misspelt after condition answerOf
  have hne : fast.name ≠ spare.name := by decide
  have hfast : ¬Mentions fast.expression spare.name := by decide +kernel
  have hspare : ¬Mentions spare.expression fast.name := by decide +kernel
  have hmisspelt : ¬Mentions misspelt.expression fast.name := by decide +kernel
  have hidle : Idle {spare.name} condition after := by decide +kernel
  have hanswer : answerOf (slow :: fast :: spare :: after) = .ok true := by decide +kernel
  have hneeded : answerOf (slow :: spare :: after) ≠ .ok true := by decide +kernel
  have herror : answerOf (slow :: fast :: misspelt :: after) =
      .error (.expression "variable spare" (.compile ⟨.unknownVariable "slwo", 0⟩)) := by
    decide +kernel
  let rule : HistoryRule := { condition := condition }
  have hrearranged := matchesLatestBar_rearranged threeRises .standard rule
  have hswapped := ((hrearranged [slow] after).1 fast spare hne hfast hspare).1 true hanswer
  have hwithout := (hrearranged [slow, fast] after).2 spare hidle true hanswer
  obtain ⟨e', herror'⟩ :=
    ((hrearranged [slow] after).1 fast misspelt hne hfast hmisspelt).2 _ herror
  exact ⟨hne, hfast, hspare, hidle, hanswer, hswapped, hneeded, hwithout, hmisspelt, _, e', herror,
    herror'⟩

end Screener
