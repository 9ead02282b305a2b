import Screener.Proofs.Decimal.Reader
import Screener.Proofs.Formula.Definitions

/-!
# How names are read

A word is read by the first rule that fits, and the rule for variables comes last.  So not every
name for which a definition is made can be used: one that looks like a number, a column or a call is
read as that.  Lags have a rule of their own, which takes everything before the first point of a
word for the name.  Hence there are two ways to refer to a definition, by its name and by lags of its
name, and either may be closed (`Scope.refers_define_iff`).

## Strategy

What `lagParts?` accepts is stated as an equation for the text (`lagParts?_eq_some_iff`).  A text
that it accepts has exactly one point (`count_point`), so a lag of a name with a point is not
accepted; and the text of any other lag is taken apart into what it was made of (`lagParts?_lagOf`).
-/

namespace Screener

namespace Scope

open Text Decimal

/-- The text of a lag of a name. -/
def lagOf (name : String) (periods : Int) : String :=
  name ++ ".shift(" ++ toString periods ++ ")"

theorem toList_lagOf (name : String) (periods : Int) :
    (lagOf name periods).toList =
      name.toList ++ '.' :: ("shift(".toList ++ (toString periods).toList ++ [')']) := by
  simp [lagOf]

/-! ## Taking lags apart -/

theorem lagParts?_eq_some_iff {cs : List Char} {name : String} {periods : Int} :
    lagParts? cs = some (name, periods) ↔ ∃ inner,
      cs = name.toList ++ '.' :: ("shift(".toList ++ inner ++ [')']) ∧ '.' ∉ name.toList ∧
        readInt64? inner = some periods := by
  simp only [lagParts?, Option.bind_eq_bind, Option.bind_eq_some_iff, Prod.exists,
    splitFirst_eq_some_iff, List.isPrefixOf?_eq_some_iff_append_eq,
    List.isSuffixOf?_eq_some_iff_append_eq]
  constructor
  · rintro ⟨before, _, ⟨rfl, hbefore⟩, _, rfl, inner, rfl, _, hread, ⟨⟩⟩
    refine ⟨inner, ?_, ?_, hread⟩
    · rw [String.toList_ofList (l := before), List.append_assoc]
    · rwa [String.toList_ofList]
  · rintro ⟨inner, rfl, hname, hread⟩
    refine ⟨name.toList, _, ⟨rfl, hname⟩, _, (List.append_assoc _ _ _).symm, inner, rfl,
      periods, hread, ?_⟩
    rw [String.ofList_toList]
    rfl

/-- A text that is a lag has exactly one point. -/
theorem count_point {cs : List Char} {name : String} {periods : Int}
    (hparts : lagParts? cs = some (name, periods)) : cs.count '.' = 1 := by
  obtain ⟨inner, rfl, hname, hread⟩ := lagParts?_eq_some_iff.mp hparts
  have hinner : '.' ∉ inner :=
    not_mem_of_readInteger?_eq_some hread (by decide) (by decide) (by decide)
  simp [List.count_eq_zero.mpr hname, List.count_eq_zero.mpr hinner]

theorem lagParts?_lagOf {name : String} (hpoint : '.' ∉ name.toList) {periods : Int}
    (hlow : lowest64 ≤ periods) (hhigh : periods ≤ highest64) :
    lagParts? (lagOf name periods).toList = some (name, periods) := by
  rw [lagParts?_eq_some_iff]
  exact ⟨_, toList_lagOf name periods, hpoint, readInteger?_toString hlow hhigh⟩

theorem lagParts?_lagOf_of_mem {name : String} (hpoint : '.' ∈ name.toList) (periods : Int) :
    lagParts? (lagOf name periods).toList = none := by
  rw [Option.eq_none_iff_forall_ne_some]
  rintro ⟨other, periods'⟩ hparts
  have hone := count_point hparts
  have htwo : 0 < name.toList.count '.' := List.count_pos_iff.mpr hpoint
  rw [toList_lagOf, List.count_append, List.count_cons_self] at hone
  omega

/-- No text is a lag of itself. -/
theorem not_isLagOf_self (name : String) : ¬ IsLagOf name name := by
  rintro ⟨periods, hparts⟩
  obtain ⟨inner, heq, -, -⟩ := lagParts?_eq_some_iff.mp hparts
  have hlength := congrArg List.length heq
  simp at hlength

/-! ## Words that are lags -/

theorem occurs_append (needle before after : List Char) :
    occurs needle (before ++ (needle ++ after)) = true := by
  induction before with
  | nil =>
      have hprefix : needle.isPrefixOf (needle ++ after) = true :=
        List.isPrefixOf_iff_prefix.mpr (List.prefix_append needle after)
      rw [List.nil_append]
      cases hcs : needle ++ after with
      | nil => simp [occurs, (List.append_eq_nil_iff.mp hcs).1]
      | cons c rest => rw [occurs, ← hcs, hprefix, Bool.true_or]
  | cons c rest ih => rw [List.cons_append, occurs, ih, Bool.or_true]

theorem literal?_eq_none {cs : List Char} {c : Char} (hmem : c ∈ cs) (hdigit : c.isDigit ≠ true)
    (hpoint : c ≠ '.') : literal? cs = none := by
  rw [literal?, if_neg]
  rintro ⟨hall, -, -⟩
  have hc := List.all_eq_true.mp hall c hmem
  simp [hdigit, hpoint] at hc

theorem ruleOf_lagOf (name : String) (periods : Int) : ruleOf (lagOf name periods) = .lag := by
  have hpoint : '.' ∈ (lagOf name periods).toList := by simp [toList_lagOf]
  have hliteral : literal? (lagOf name periods).toList = none :=
    literal?_eq_none (c := 's') (by simp [toList_lagOf]) (by decide) (by decide)
  have hcolumn : lagOf name periods ∉ Frame.columns := by
    have hpointless : ∀ column ∈ Frame.columns, '.' ∉ column.toList := by decide
    exact fun hmem => hpointless _ hmem hpoint
  have hclosing : (lagOf name periods).toList ≠ [')'] := by
    intro h
    rw [h] at hpoint
    exact absurd hpoint (by decide)
  have hending : (lagOf name periods).toList.getLast? = some ')' := by
    simp [toList_lagOf, List.getLast?_append, List.getLast?_cons]
  have hshift : occurs "shift".toList (lagOf name periods).toList = true := by
    have hsplit : (lagOf name periods).toList = (name.toList ++ ['.']) ++
        ("shift".toList ++ ('(' :: ((toString periods).toList ++ [')']))) := by
      simp [toList_lagOf]
    rw [hsplit]
    exact occurs_append _ _ _
  simp only [ruleOf, hliteral, if_neg hcolumn, if_neg hclosing, if_pos hending,
    if_pos (And.intro hpoint hshift)]

theorem tokenOf_lagOf (scope : Scope) (name : String) (periods : Int) :
    scope.tokenOf (lagOf name periods) = scope.lag (lagOf name periods) := by
  rw [tokenOf_eq_read, ruleOf_lagOf]
  rfl

/-- A lag of the name of a new definition refers to it, unless the name has a point. -/
theorem tokenOf_define_lagOf (scope : Scope) {name : String} (hpoint : '.' ∉ name.toList)
    (formula : Formula) {periods : Int} (hlow : lowest64 ≤ periods) (hhigh : periods ≤ highest64) :
    (scope.define name formula).tokenOf (lagOf name periods) =
      .ok (.operand (.lag name periods scope.bindings.next)) := by
  have hfind : (scope.define name formula).bindings.find? name = some scope.bindings.next := by
    rw [define, Bindings.find?_define, if_pos rfl]
  rw [tokenOf_lagOf, lag, lagParts?_lagOf hpoint hlow hhigh]
  simp only [hfind]

theorem tokenOf_lagOf_of_mem (scope : Scope) {name : String} (hpoint : '.' ∈ name.toList)
    (periods : Int) :
    scope.tokenOf (lagOf name periods) = .error (.invalidShift (lagOf name periods)) := by
  rw [tokenOf_lagOf, lag, lagParts?_lagOf_of_mem hpoint]

theorem isWord_lagOf {name : String} (hsolid : ∀ c ∈ name.toList, isBlank c = false)
    (periods : Int) : IsWord (lagOf name periods) := by
  constructor
  · simp [toList_lagOf]
  · intro c hmem
    have hmarks : ∀ c ∈ '.' :: "shift(".toList, isBlank c = false := solid_of_all (by decide)
    rw [toList_lagOf, List.append_assoc, ← List.cons_append] at hmem
    rcases List.mem_append.mp hmem with hmem | hmem
    · exact hsolid c hmem
    rcases List.mem_append.mp hmem with hmem | hmem
    · exact hmarks c hmem
    rcases List.mem_append.mp hmem with hmem | hmem
    · rcases isDigit_or_of_mem_toString hmem with hdigit | rfl
      · exact eq_false_of_ne_true fun hblank => not_isDigit_of_isBlank hblank hdigit
      · decide
    · obtain rfl := List.mem_singleton.mp hmem
      decide

/-! ## Words that are names -/

theorem lag_ne_reference {scope : Scope} {text name : String} {number : Nat} :
    scope.lag text ≠ .ok (.operand (.reference name number)) := by
  intro htoken
  rw [lag] at htoken
  split at htoken
  · cases htoken
  · split at htoken
    · cases htoken
    · cases htoken

theorem call_ne_reference {scope : Scope} {text name : String} {number : Nat} :
    scope.call text ≠ .ok (.operand (.reference name number)) := by
  intro htoken
  unfold call at htoken
  split at htoken
  · cases htoken
  · cases htoken
  · dsimp only at htoken
    split at htoken
    · obtain ⟨values, -, hvalues⟩ := map_eq_ok htoken
      cases hvalues
    · cases htoken

/-- Only a name is read as a variable. -/
theorem isName_of_tokenOf {scope : Scope} {word : String} (hword : IsWord word) {number : Nat}
    {name : String} (htoken : scope.tokenOf word = .ok (.operand (.reference name number))) :
    IsName word := by
  rw [tokenOf_eq_read] at htoken
  cases hrule : ruleOf word with
  | name => exact hword.isName hrule
  | lag =>
      rw [hrule] at htoken
      exact absurd htoken lag_ne_reference
  | call =>
      rw [hrule] at htoken
      exact absurd htoken call_ne_reference
  | _ =>
      rw [hrule] at htoken
      cases htoken

/-- A word that is no name is read without asking what it stands for. -/
theorem tokenOf_define_of_not_isName (scope : Scope) {name : String} (hword : IsWord name)
    (hname : ¬IsName name) (formula : Formula) :
    (scope.define name formula).tokenOf name = scope.tokenOf name := by
  rw [tokenOf_eq_read, tokenOf_eq_read]
  cases hrule : ruleOf name with
  | name => exact absurd (hword.isName hrule) hname
  | lag => exact scope.lag_define_of_ne (not_isLagOf_self name) formula
  | _ => rfl

/-! ## Reaching a definition -/

/-- Some word refers to the definition with a number. -/
def Refers (scope : Scope) (number : Nat) : Prop :=
  ∃ word o, IsWord word ∧ scope.tokenOf word = .ok (.operand o) ∧ o.definition? = some number

/-- A new definition can be referred to if its name is read as a variable, or if a lag of its name
is read as that. -/
theorem refers_define_iff (scope : Scope) (hbounded : scope.bindings.Bounded) (name : String)
    (formula : Formula) :
    (scope.define name formula).Refers scope.bindings.next ↔
      IsName name ∨ ((∀ c ∈ name.toList, isBlank c = false) ∧ '.' ∉ name.toList) := by
  constructor
  · rintro ⟨word, o, hword, htoken, hnumber⟩
    have hself : ∀ other, (scope.define name formula).bindings.find? other =
        some scope.bindings.next → other = name := by
      intro other hfind
      rw [define, Bindings.find?_define] at hfind
      split at hfind
      · assumption
      · exact absurd (hbounded other _ hfind) (Nat.lt_irrefl _)
    cases denotes_of_tokenOf htoken with
    | literal value => cases hnumber
    | column => cases hnumber
    | call hcontains => cases hnumber
    | lag hparts hfind =>
        cases hnumber
        obtain rfl := hself _ hfind
        obtain ⟨inner, htext, hpoint, -⟩ := lagParts?_eq_some_iff.mp hparts
        refine .inr ⟨fun c hmem => hword.solid c ?_, hpoint⟩
        rw [htext]
        exact List.mem_append_left _ hmem
    | reference hfind =>
        cases hnumber
        obtain rfl := hself _ hfind
        exact .inl (isName_of_tokenOf hword htoken)
  · rintro (hname | ⟨hsolid, hpoint⟩)
    · exact ⟨name, _, hname.isWord, scope.tokenOf_define_self hname formula, rfl⟩
    · exact ⟨lagOf name 0, _, isWord_lagOf hsolid 0,
        scope.tokenOf_define_lagOf hpoint formula (by decide) (by decide), rfl⟩

end Scope

end Screener
