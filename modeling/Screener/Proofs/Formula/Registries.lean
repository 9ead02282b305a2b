import Screener.Proofs.Formula.Definitions

/-!
# One text under two registries

When a text is compiled, its registry is only asked which names it knows.  So under registries
that know the same names a text compiles to the same formula or fails alike
(`Formula.compile_congr`), and a text that compiles under a registry compiles to the same formula
under one that knows more names (`Formula.compile_of_knowsAll`).

A text that compiles without any indicators calls none, and then no registry plays a part in what
it means either (`Session.evaluateCondition_of_empty`).
-/

namespace Screener

variable {scope scope' : Scope}

namespace Scope

/-- The other scope has the same definitions and knows all the indicators. -/
structure KnowsAll (scope scope' : Scope) : Prop where
  bindings : scope'.bindings = scope.bindings
  contains {name : String} :
    scope.registry.contains name = true → scope'.registry.contains name = true

/-- A word means the same if it means the same as a call. -/
theorem tokenOf_congr (hbindings : scope'.bindings = scope.bindings) {text : String}
    (hcall : scope'.call text = scope.call text) : scope'.tokenOf text = scope.tokenOf text := by
  rw [tokenOf_eq_read, tokenOf_eq_read]
  cases ruleOf text with
  | call => exact hcall
  | lag => rw [Rule.read, Rule.read, lag, lag, hbindings]
  | name => rw [Rule.read, Rule.read, hbindings]
  | _ => rfl

/-- Calls are looked up in the registry by name only. -/
theorem call_congr
    (hnames : ∀ name, scope'.registry.contains name = scope.registry.contains name)
    (text : String) : scope'.call text = scope.call text := by
  simp only [call, hnames]

theorem KnowsAll.call_eq (hknows : scope.KnowsAll scope') {text : String} {token : Token}
    (htoken : scope.call text = .ok token) : scope'.call text = scope.call text := by
  unfold call at htoken ⊢
  split at htoken
  · cases htoken
  · cases htoken
  · next name rest _ _ =>
    by_cases hcontains : scope.registry.contains (String.ofList name) = true
    · simp only [hcontains, hknows.contains hcontains]
    · simp only [if_neg hcontains] at htoken
      cases htoken

/-- A word is read as a call, or else the registry is not asked. -/
theorem tokenOf_eq_call_or (hbindings : scope'.bindings = scope.bindings) (text : String) :
    scope.tokenOf text = scope.call text ∨ scope'.tokenOf text = scope.tokenOf text := by
  simp only [tokenOf_eq_read]
  cases ruleOf text with
  | call => exact .inl rfl
  | lag => exact .inr (by rw [Rule.read, Rule.read, lag, lag, hbindings])
  | name => exact .inr (by rw [Rule.read, Rule.read, hbindings])
  | _ => exact .inr rfl

theorem KnowsAll.tokenOf_eq (hknows : scope.KnowsAll scope') {text : String} {token : Token}
    (htoken : scope.tokenOf text = .ok token) : scope'.tokenOf text = scope.tokenOf text := by
  rcases tokenOf_eq_call_or hknows.bindings text with hcall | hsame
  · rw [hcall] at htoken
    exact tokenOf_congr hknows.bindings (hknows.call_eq htoken)
  · exact hsame

end Scope

namespace Formula

/-- Lexemes are arranged in the same way if each of them means the same. -/
theorem arrange_congr {lexemes : List Lexeme}
    (htokens : ∀ lexeme ∈ lexemes, scope'.tokenOf lexeme.text = scope.tokenOf lexeme.text)
    (stack : List Pending) : arrange scope' lexemes stack = arrange scope lexemes stack := by
  induction lexemes generalizing stack with
  | nil => rfl
  | cons lexeme rest ih =>
      have hrest := ih fun other hother => htokens other (List.mem_cons_of_mem _ hother)
      have hclassify : scope'.classify lexeme = scope.classify lexeme := by
        rw [Scope.classify, Scope.classify, htokens lexeme List.mem_cons_self]
      simp only [arrange, hclassify, hrest]

theorem compile_congr {source : String}
    (htokens : ∀ lexeme ∈ Lexeme.ofText source,
      scope'.tokenOf lexeme.text = scope.tokenOf lexeme.text) :
    compile scope' source = compile scope source := by
  unfold compile
  cases hlexemes : Lexeme.ofText source with
  | nil => rfl
  | cons lexeme rest =>
      rw [hlexemes] at htokens
      simp only [arrange_congr htokens]

/-- A text that compiles is compiled to the same formula if more indicators are known. -/
theorem compile_of_knowsAll (hknows : scope.KnowsAll scope') {source : String} {formula : Formula}
    (hcompile : compile scope source = .ok formula) : compile scope' source = .ok formula := by
  have hsame : compile scope' source = compile scope source := by
    apply compile_congr
    intro lexeme hlexeme
    obtain ⟨token, htoken⟩ := (arranges_of_compile hcompile).exists_token hlexeme
    exact hknows.tokenOf_eq htoken
  rw [hsame, hcompile]

end Formula

/-! ## Formulas without calls -/

/-- What nodes are reduced to depends on their operands only. -/
theorem reduce_congr {m : Type → Type} [Monad m] [MonadExceptOf EvaluationError m]
    {operand operand' : Operand → m Series} {nodes : List Node}
    (hoperands : ∀ o, .operand o ∈ nodes → operand o = operand' o) (stack : List Series) :
    reduce operand nodes stack = reduce operand' nodes stack :=
  parallel_eq.reduce hoperands stack

/-- Without calls and definitions the registry plays no part. -/
theorem Environment.meaning_congr (frame : Frame) (registry registry' : Registry)
    {formula : Formula} (hcalls : ∀ c, .operand (.call c) ∉ formula.nodes) :
    Environment.meaning ⟨frame, registry⟩ [] formula =
      Environment.meaning ⟨frame, registry'⟩ [] formula := by
  apply reduce_congr
  intro o hmem
  cases o with
  | literal value => rfl
  | column name => rfl
  | call c => exact absurd hmem (hcalls c)
  | reference name number => rfl
  | lag name periods number => rfl

theorem Formula.no_calls_of_compile_empty {bindings : Bindings} {source : String}
    {formula : Formula} (hcompile : compile ⟨.empty, bindings⟩ source = .ok formula) (c : Call) :
    .operand (.call c) ∉ formula.nodes := by
  intro hmem
  obtain ⟨lexeme, -, htoken⟩ := (arranges_of_compile hcompile).exists_tokenOf hmem
  cases Scope.denotes_of_tokenOf htoken with
  | call hcontains => cases hcontains

/-- What can be evaluated without indicators gives the same with any. -/
theorem Session.meaning_of_empty {frame : Frame} (registry : Registry) {source : String}
    {series : Series} (hmeaning : (start frame .empty).meaning source = .ok series) :
    (start frame registry).meaning source = .ok series := by
  have hknows : Scope.KnowsAll ⟨.empty, .empty⟩ ⟨registry, .empty⟩ := by
    constructor
    · rfl
    · intro name hcontains
      cases hcontains
  unfold meaning at hmeaning ⊢
  obtain ⟨formula, hformula, hvalue⟩ := bind_eq_ok hmeaning
  have hcompile := mapError_eq_ok hformula
  have hcompile' : (start frame registry).compile source = .ok formula :=
    Formula.compile_of_knowsAll hknows hcompile
  have hsame : Environment.meaning ⟨frame, registry⟩ [] formula =
      Environment.meaning ⟨frame, .empty⟩ [] formula :=
    Environment.meaning_congr frame registry .empty (Formula.no_calls_of_compile_empty hcompile)
  rw [hcompile']
  show (Environment.meaning ⟨frame, registry⟩ [] formula).mapError _ = _
  rw [hsame]
  exact hvalue

theorem Session.evaluateCondition_of_empty {frame : Frame} (registry : Registry)
    {source : String} {mask : Series}
    (hmask : ((start frame .empty).evaluateCondition source).1 = .ok mask) :
    ((start frame registry).evaluateCondition source).1 = .ok mask := by
  have hbind : ((start frame .empty).evaluate source).1 >>= condition = .ok mask := hmask
  obtain ⟨series, hseries, hcondition⟩ := bind_eq_ok hbind
  rw [(evaluate_of_sound (sound_start frame .empty) source).1] at hseries
  have hseries' : ((start frame registry).evaluate source).1 = .ok series := by
    rw [(evaluate_of_sound (sound_start frame registry) source).1]
    exact meaning_of_empty registry hseries
  show ((start frame registry).evaluate source).1 >>= condition = .ok mask
  rw [hseries']
  exact hcondition

end Screener
