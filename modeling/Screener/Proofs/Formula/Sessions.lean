import Screener.Proofs.Formula.Dialogue
import Screener.Proofs.Formula.Registries

/-!
# Sessions on two frames

Two sessions on different frames or with different indicators are alike if they know the same
names and remember nothing wrong (`Session.Alike`).  A session is asked to make definitions and to
evaluate texts, in any order, and sessions that are alike stay alike under the same requests
(`Session.Alike.after`): compiling looks at no rows, a request that fails leaves the definitions
as they are, and what is remembered makes no difference to what is evaluated.  So a relation that
formulas keep holds between what the sessions answer (`Session.Alike.evaluate`,
`Session.Alike.answers`).
-/

namespace Screener

variable {R : Series → Series → Prop} {env env' : Environment}

namespace Session

/-- The lags that a text reaches keep the relation. -/
def KeepsLags (R : Series → Series → Prop) (session : Session) (source : String) : Prop :=
  ∀ formula, session.compile source = .ok formula →
    Screener.KeepsLags R session.bindings.formulas formula.nodes

/-- Sound sessions that know the same names. -/
structure Alike (env env' : Environment) (session session' : Session) : Prop where
  names (name : String) : env'.registry.contains name = env.registry.contains name
  env : session.env = env
  env' : session'.env = env'
  bindings : session'.bindings = session.bindings
  sound : session.Sound
  sound' : session'.Sound

theorem alike_start_of_names (frame frame' : Frame) {registry registry' : Registry}
    (hnames : ∀ name, registry'.contains name = registry.contains name) :
    Alike ⟨frame, registry⟩ ⟨frame', registry'⟩ (start frame registry)
      (start frame' registry') where
  names := hnames
  env := rfl
  env' := rfl
  bindings := rfl
  sound := sound_start frame registry
  sound' := sound_start frame' registry'

theorem alike_start (frame frame' : Frame) (registry : Registry) :
    Alike ⟨frame, registry⟩ ⟨frame', registry⟩ (start frame registry) (start frame' registry) :=
  alike_start_of_names frame frame' fun _ => rfl

namespace Alike

variable {session session' : Session}

/-- Compiling looks at no rows and calls no indicators. -/
theorem compile_eq (halike : Alike env env' session session') (source : String) :
    session'.compile source = session.compile source := by
  have hnames : ∀ name, session'.scope.registry.contains name =
      session.scope.registry.contains name := by
    rw [scope, scope, halike.env, halike.env']
    exact halike.names
  apply Formula.compile_congr
  intro lexeme _
  exact Scope.tokenOf_congr halike.bindings (Scope.call_congr hnames lexeme.text)

theorem define (halike : Alike env env' session session') (name source : String) :
    Agree (Alike env env') (session.define name source) (session'.define name source) := by
  have hdefiniens : session'.definiens source = session.definiens source := by
    rw [definiens, definiens, halike.compile_eq]
  rw [define_eq_map, define_eq_map, hdefiniens]
  cases session.definiens source with
  | error e => exact .error e
  | ok formula =>
      exact .ok
        { halike with
          bindings := congrArg (·.define name formula) halike.bindings
          sound := halike.sound.define name formula
          sound' := halike.sound'.define name formula }

/-- Evaluations of the same text are related, and leave sessions that are alike. -/
theorem evaluate (halike : Alike env env' session session') (source : String) :
    Alike env env' (session.evaluate source).2 (session'.evaluate source).2 ∧
      ∀ R : Series → Series → Prop, Related R env env' → session.KeepsLags R source →
        Agree R (session.evaluate source).1 (session'.evaluate source).1 := by
  obtain ⟨hresult, hsound, henv, hbindings⟩ := evaluate_of_sound halike.sound source
  obtain ⟨hresult', hsound', henv', hbindings'⟩ := evaluate_of_sound halike.sound' source
  constructor
  · exact ⟨halike.names, henv.trans halike.env, henv'.trans halike.env',
      by rw [hbindings, hbindings', halike.bindings], hsound, hsound'⟩
  · intro R hrelated hlags
    rw [hresult, hresult', meaning, meaning, halike.compile_eq, halike.bindings, halike.env,
      halike.env']
    cases hformula : session.compile source with
    | error e => exact .error _
    | ok formula =>
        exact (Environment.meaning_agree hrelated (hlags formula hformula)).mapError _

theorem evaluateCondition (halike : Alike env env' session session')
    (hrelated : Related R env env') {source : String} (hlags : session.KeepsLags R source) :
    Agree R (session.evaluateCondition source).1 (session'.evaluateCondition source).1 := by
  have hagree := (halike.evaluate source).2 R hrelated hlags
  refine Agree.bind hagree fun s s' hseries => ?_
  rw [condition, condition, hrelated.kind hseries]
  cases s.kind with
  | number => exact .error _
  | boolean => exact .ok hseries

/-- Answers to the same question are related, and leave sessions that are alike. -/
theorem ask (halike : Alike env env' session session') (hrelated : Related R env env')
    (hshift : ∀ periods s s', R s s' → R (s.shift periods) (s'.shift periods))
    (question : Question) :
    Agree (Option.Rel R) (session.ask question).1 (session'.ask question).1 ∧
      Alike env env' (session.ask question).2 (session'.ask question).2 := by
  have hlags : ∀ source, session.KeepsLags R source :=
    fun source formula _ name periods number _ => hshift periods
  cases question with
  | define name source =>
      have hdefine := halike.define name source
      unfold Session.ask
      dsimp only
      generalize session.define name source = result at hdefine ⊢
      generalize session'.define name source = result' at hdefine ⊢
      cases hdefine with
      | ok hnext => exact ⟨.ok .none, hnext⟩
      | error e => exact ⟨.error e, halike⟩
  | evaluate source =>
      obtain ⟨hnext, hagree⟩ := halike.evaluate source
      exact ⟨(hagree R hrelated (hlags source)).map fun _ _ => .some, hnext⟩
  | condition source =>
      have hagree := halike.evaluateCondition hrelated (hlags source)
      exact ⟨hagree.map fun _ _ => .some, (halike.evaluate source).1⟩

/-- Sessions that are alike answer alike. -/
theorem answers (halike : Alike env env' session session') (hrelated : Related R env env')
    (hshift : ∀ periods s s', R s s' → R (s.shift periods) (s'.shift periods))
    (questions : List Question) :
    List.Forall₂ (Agree (Option.Rel R)) (session.answers questions)
      (session'.answers questions) := by
  induction questions generalizing session session' with
  | nil => exact .nil
  | cons question rest ih =>
      obtain ⟨hanswer, hnext⟩ := halike.ask hrelated hshift question
      exact .cons hanswer (ih hnext)

end Alike

/-! ## Requests in any order -/

/-- What a session can be asked to do. -/
inductive Request where
  | define (name source : String)
  | evaluate (source : String)

/-- The session after one request. -/
def step (session : Session) : Request → Session
  | .define name source =>
    match session.define name source with
    | .ok next => next
    | .error _ => session
  | .evaluate source => (session.evaluate source).2

/-- The session after requests. -/
def after (session : Session) (requests : List Request) : Session := requests.foldl step session

/-- All lags that a text reaches, through definitions too, are towards earlier rows. -/
def LooksBack (session : Session) (source : String) : Prop :=
  ∀ formula, session.compile source = .ok formula → ∀ name periods number,
    Reaches session.bindings.formulas formula.nodes (.lag name periods number) → 0 ≤ periods

/-- Whether no lag of a text is towards later rows, and no lag of any definition. -/
def lagsBack (session : Session) (source : String) : Bool :=
  match session.compile source with
  | .ok formula => (formula :: session.bindings.formulas).all fun formula =>
      formula.nodes.all fun
        | .operand (.lag _ periods _) => decide (0 ≤ periods)
        | _ => true
  | .error _ => true

/-- It is enough to look at all definitions, reached or not. -/
theorem looksBack_of_lagsBack {session : Session} {source : String}
    (hlags : session.lagsBack source = true) : session.LooksBack source := by
  intro formula hformula name periods number hreaches
  rw [lagsBack, hformula] at hlags
  have hall := List.all_eq_true.mp hlags
  rcases hreaches.mem with hmem | ⟨definition, hdefinition, hmem⟩
  · simpa using List.all_eq_true.mp (hall formula List.mem_cons_self) _ hmem
  · simpa using List.all_eq_true.mp (hall definition (List.mem_cons_of_mem _ hdefinition)) _ hmem

theorem Alike.step {session session' : Session} (halike : Alike env env' session session')
    (request : Request) : Alike env env' (session.step request) (session'.step request) := by
  cases request with
  | define name source =>
      -- a definition that fails fails in both sessions
      simp only [Session.step]
      have hdefine := halike.define name source
      generalize session.define name source = result at hdefine ⊢
      generalize session'.define name source = result' at hdefine ⊢
      cases hdefine with
      | ok hnext => exact hnext
      | error e => exact halike
  | evaluate source => exact (halike.evaluate source).1

theorem Alike.after {session session' : Session} (halike : Alike env env' session session')
    (requests : List Request) :
    Alike env env' (session.after requests) (session'.after requests) := by
  induction requests generalizing session session' with
  | nil => exact halike
  | cons request rest ih => exact ih (halike.step request)

end Session

end Screener
