import Screener.Proofs.Formula.Agreement

/-!
# Dialogues

A session is asked to make definitions, to evaluate texts and to evaluate conditions, as often and in
whatever order one likes, and it answers every question, some of them with a failure.  A
recomputation is asked the same questions.  It knows the same definitions but remembers no series:
whenever a reference is reduced, so are the nodes of its definition.

The two give the same answers (`Session.answers_eq_recomputed`).  What makes this true is an
invariant, `Mirrors`: they know the same definitions, and whatever the session remembers is what its
definition means.  One question keeps it (`Mirrors.ask`), so a dialogue does.
-/

namespace Screener

/-- What can be asked about a frame. -/
inductive Question where
  | define (name source : String)
  | evaluate (source : String)
  /-- Asks for a series of truth values. -/
  | condition (source : String)

/-- A series, or nothing where a definition has been made. -/
abbrev Answer := Except ExpressionError (Option Series)

namespace Session

/-- Answers a question.  A definition that fails leaves the session as it is; an evaluation that
fails may have found series on the way. -/
def ask (session : Session) : Question → Answer × Session
  | .define name source =>
    match session.define name source with
    | .ok next => (.ok none, next)
    | .error e => (.error e, session)
  | .evaluate source =>
    ((session.evaluate source).1.map some, (session.evaluate source).2)
  | .condition source =>
    ((session.evaluateCondition source).1.map some, (session.evaluateCondition source).2)

/-- The answers to questions that are asked one after another. -/
def answers (session : Session) : List Question → List Answer
  | [] => []
  | question :: rest => (session.ask question).1 :: (session.ask question).2.answers rest

/-- The session after questions. -/
def asked (session : Session) (questions : List Question) : Session :=
  questions.foldl (fun session question => (session.ask question).2) session

end Session

/-- Definitions on one frame with one registry, and no memory. -/
structure Recomputation where
  env : Environment
  bindings : Bindings := .empty

namespace Recomputation

/-- No definitions yet. -/
def start (frame : Frame) (registry : Registry) : Recomputation := { env := ⟨frame, registry⟩ }

/-- Compiles a text with the definitions made so far. -/
def compile (plain : Recomputation) (source : String) : Except CompileError Formula :=
  Formula.compile ⟨plain.env.registry, plain.bindings⟩ source

/-- Makes a name stand for a text that reduces to one value. -/
def define (plain : Recomputation) (name source : String) :
    Except ExpressionError Recomputation := do
  let formula ← (plain.compile source).mapError .compile
  formula.checkArity.mapError .evaluation
  return { plain with bindings := plain.bindings.define name formula }

/-- Compiles a text and reduces it, and every definition again wherever it is referred to. -/
def evaluate (plain : Recomputation) (source : String) : Except ExpressionError Series := do
  let formula ← (plain.compile source).mapError .compile
  (plain.env.meaning plain.bindings.formulas formula).mapError .evaluation

/-- Answers a question; only definitions leave anything behind. -/
def ask (plain : Recomputation) : Question → Answer × Recomputation
  | .define name source =>
    match plain.define name source with
    | .ok next => (.ok none, next)
    | .error e => (.error e, plain)
  | .evaluate source => ((plain.evaluate source).map some, plain)
  | .condition source => (((plain.evaluate source).bind Session.condition).map some, plain)

/-- The answers to questions that are asked one after another. -/
def answers (plain : Recomputation) : List Question → List Answer
  | [] => []
  | question :: rest => (plain.ask question).1 :: (plain.ask question).2.answers rest

end Recomputation

/-! ## One question keeps the session and the recomputation in step -/

/-- The session knows the definitions of the recomputation and remembers nothing wrong. -/
structure Mirrors (session : Session) (plain : Recomputation) : Prop where
  env : session.env = plain.env
  bindings : session.bindings = plain.bindings
  sound : session.Sound

namespace Mirrors

theorem start (frame : Frame) (registry : Registry) :
    Mirrors (Session.start frame registry) (Recomputation.start frame registry) where
  env := rfl
  bindings := rfl
  sound := Session.sound_start frame registry

variable {session : Session} {plain : Recomputation}

theorem compile (hmirrors : Mirrors session plain) (source : String) :
    session.compile source = plain.compile source := by
  rw [Session.compile, Session.scope, Recomputation.compile, hmirrors.env, hmirrors.bindings]

theorem meaning (hmirrors : Mirrors session plain) (source : String) :
    session.meaning source = plain.evaluate source := by
  rw [Session.meaning, Recomputation.evaluate, hmirrors.compile, hmirrors.env, hmirrors.bindings]

/-- An evaluation gives what the recomputation gives, from the memory or not. -/
theorem evaluate (hmirrors : Mirrors session plain) (source : String) :
    (session.evaluate source).1 = plain.evaluate source ∧
      Mirrors (session.evaluate source).2 plain := by
  obtain ⟨hresult, hsound, henv, hbindings⟩ := Session.evaluate_of_sound hmirrors.sound source
  refine ⟨hresult.trans (hmirrors.meaning source), ?_⟩
  exact ⟨henv.trans hmirrors.env, hbindings.trans hmirrors.bindings, hsound⟩

/-- A definition is made in both or fails alike in both. -/
theorem define (hmirrors : Mirrors session plain) (name source : String) :
    Agree Mirrors (session.define name source) (plain.define name source) := by
  rw [Session.define, Recomputation.define, hmirrors.compile]
  cases plain.compile source with
  | error e => exact .error _
  | ok formula =>
      show Agree Mirrors (formula.checkArity.mapError ExpressionError.evaluation >>= fun _ => _)
        (formula.checkArity.mapError ExpressionError.evaluation >>= fun _ => _)
      cases formula.checkArity with
      | error e => exact .error _
      | ok checked =>
          have hbindings : session.bindings.define name formula =
              plain.bindings.define name formula := congrArg (·.define name formula) hmirrors.bindings
          exact .ok ⟨hmirrors.env, hbindings, hmirrors.sound.define name formula⟩

theorem ask (hmirrors : Mirrors session plain) (question : Question) :
    (session.ask question).1 = (plain.ask question).1 ∧
      Mirrors (session.ask question).2 (plain.ask question).2 := by
  cases question with
  | define name source =>
      have hdefine := hmirrors.define name source
      rw [Session.ask, Recomputation.ask]
      generalize session.define name source = result at hdefine ⊢
      generalize plain.define name source = result' at hdefine ⊢
      cases hdefine with
      | ok hnext => exact ⟨rfl, hnext⟩
      | error e => exact ⟨rfl, hmirrors⟩
  | evaluate source =>
      obtain ⟨hresult, hnext⟩ := hmirrors.evaluate source
      exact ⟨congrArg (Except.map some) hresult, hnext⟩
  | condition source =>
      obtain ⟨hresult, hnext⟩ := hmirrors.evaluate source
      refine ⟨?_, hnext⟩
      show ((session.evaluate source).1.bind Session.condition).map some = _
      rw [hresult]
      rfl

theorem answers (hmirrors : Mirrors session plain) (questions : List Question) :
    session.answers questions = plain.answers questions := by
  induction questions generalizing session plain with
  | nil => rfl
  | cons question rest ih =>
      obtain ⟨hanswer, hnext⟩ := hmirrors.ask question
      rw [Session.answers, Recomputation.answers, hanswer, ih hnext]

end Mirrors

namespace Session

/-- **The memory is invisible.**  Whatever a session is asked, it answers what is answered without a
memory. -/
theorem answers_eq_recomputed (frame : Frame) (registry : Registry) (questions : List Question) :
    (start frame registry).answers questions =
      (Recomputation.start frame registry).answers questions :=
  (Mirrors.start frame registry).answers questions

end Session

end Screener
