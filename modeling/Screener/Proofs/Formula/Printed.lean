import Screener.Indicator.Standard
import Screener.Proofs.Decimal.Shortest
import Screener.Proofs.Formula.Names
import Screener.Proofs.Formula.Replacement
import Screener.Proofs.Indicator.Standard
import Screener.Proofs.Text.Blank
import Screener.Proofs.Text.Pieces

/-!
# Printed operands are read back

An operand is printed as it would be written in a formula.  Read again, with the same definitions, the
text is the same operand (`Scope.tokenOf_text`): a number keeps its bits, and so do the arguments of a
call, a negative zero among them.

## Strategy

Columns and variables are printed as the words that they were read from.  The text of a lag was taken
apart already (`Scope.lagParts?_lagOf`).  What is left are numbers and calls.  What is printed for a
finite number is made of digits, a point and a sign only (`Decimal.isDigit_or_of_mem_chars`), so the
parentheses and commas of a call can be found again, and a call is not taken for a lag: no name of an
indicator has an `f` in it, so the word `shift` is missing (`Scope.IsCallable`).
-/

namespace Screener

namespace Scope

open Text Decimal

/-! ## Numbers -/

theorem isBlank_of_mem_chars {x : Float} (hx : x.isFinite = true) {c : Char}
    (hc : c ∈ plain.chars x) : isBlank c = false := by
  obtain ⟨b, hparts⟩ := exists_parts hx
  rcases isDigit_or_of_mem_chars hparts hc with hdigit | rfl | rfl
  · exact eq_false_of_ne_true fun hblank => not_isDigit_of_isBlank hblank hdigit
  · decide
  · decide

theorem not_mem_chars {x : Float} (hx : x.isFinite = true) {c : Char} (hdigit : c.isDigit = false)
    (hpoint : c ≠ '.') (hminus : c ≠ '-') : c ∉ plain.chars x := by
  obtain ⟨b, hparts⟩ := exists_parts hx
  intro hc
  rcases isDigit_or_of_mem_chars hparts hc with h | h | h
  · rw [hdigit] at h
    cases h
  · exact hpoint h
  · exact hminus h

theorem literal?_eq_some {cs : List Char} {value : Float} (hliteral : literal? cs = some value) :
    readFloat? cs = some value ∧ '-' ∉ cs := by
  unfold literal? at hliteral
  split at hliteral
  case isTrue hnumber =>
    refine ⟨hliteral, fun hminus => ?_⟩
    cases List.all_eq_true.mp hnumber.1 '-' hminus
  case isFalse => cases hliteral

/-- A number without a sign is printed as a number. -/
theorem literal?_chars {x : Float} (hx : x.isFinite = true) {b : Binary}
    (hparts : Parts.ofFloat x = .finite b) (hsign : b.negative = false) :
    literal? (plain.chars x) = some x := by
  obtain ⟨coefficient, fraction, whole, rest, hcuts, hchars, -⟩ := exists_chars hparts
  rw [hsign] at hchars
  have hchars : plain.chars x = pointed whole rest := hchars
  have hread := readFloat?_chars_self hx
  obtain ⟨c, cs, hfirst, hdigit⟩ := exists_pointed_cons hcuts
  have hall : (pointed whole rest).all (fun c => c.isDigit || c = '.') = true := by
    rw [List.all_eq_true]
    intro c hc
    rcases isDigit_or_of_mem_pointed hcuts hc with hdigit | rfl
    · rw [hdigit, Bool.true_or]
    · rfl
  have hany : (pointed whole rest).any Char.isDigit = true := by
    rw [hfirst, List.any_cons, hdigit, Bool.true_or]
  rw [hchars] at hread ⊢
  rw [literal?, if_pos ⟨hall, hany, count_pointed_le_one hcuts⟩, hread]

variable {scope : Scope} {text : String}

/-- A number that was read is read again. -/
theorem tokenOf_plain {value : Float} (hvalue : literal? text.toList = some value)
    (hfinite : value.isFinite = true) :
    scope.tokenOf (plain.text value) = .ok (.operand (.literal value)) := by
  obtain ⟨hread, hminus⟩ := literal?_eq_some hvalue
  obtain ⟨b, hparts⟩ := exists_parts hfinite
  have hsign := not_negative_of_readFloat? hread hminus hparts
  have hliteral : literal? (plain.text value).toList = some value := by
    rw [Layout.text, String.toList_ofList]
    exact literal?_chars hfinite hparts hsign
  simp only [tokenOf, hliteral]

/-! ## Calls -/

/-- A name that a call can be printed with: the parenthesis after it is the first one, and there is no
word `shift` in it. -/
structure IsCallable (name : String) : Prop where
  nonempty : name.toList ≠ []
  solid : ∀ c ∈ name.toList, isBlank c = false
  opening : '(' ∉ name.toList
  shift : 'f' ∉ name.toList

theorem isCallable_standard {name : String} (hcontains : Registry.standard.contains name = true) :
    IsCallable name := by
  have hnames : ∀ name ∈ Registry.standard.entries.map Prod.fst, name.toList ≠ [] ∧
      (name.toList.all fun c => !isBlank c) = true ∧ '(' ∉ name.toList ∧ 'f' ∉ name.toList := by
    decide
  obtain ⟨indicator, hget⟩ := Option.isSome_iff_exists.mp hcontains
  obtain ⟨hnonempty, hsolid, hopening, hshift⟩ :=
    hnames name (List.mem_map_of_mem (f := Prod.fst) (Registry.mem_of_get?_eq_some hget))
  exact ⟨hnonempty, solid_of_all hsolid, hopening, hshift⟩

theorem mem_of_occurs {needle cs : List Char} (hoccurs : occurs needle cs = true) :
    needle ⊆ cs := by
  induction cs with
  | nil =>
      rw [occurs, List.isEmpty_iff] at hoccurs
      rw [hoccurs]
      exact List.nil_subset _
  | cons c rest ih =>
      rw [occurs, Bool.or_eq_true] at hoccurs
      rcases hoccurs with hprefix | hrest
      · exact (List.isPrefixOf_iff_prefix.mp hprefix).subset
      · exact List.subset_cons_of_subset c (ih hrest)

variable {name : String} {values : List Float}

theorem argument_chars {value : Float} (hvalue : value.isFinite = true) :
    argument name (plain.chars value) = .ok value := by
  have htrim : trim (plain.chars value) = plain.chars value := by
    refine trim_eq_self (fun c hc => ?_) (fun c hc => ?_)
    · exact isBlank_of_mem_chars hvalue (List.mem_of_mem_head? hc)
    · exact isBlank_of_mem_chars hvalue (List.mem_of_mem_getLast? hc)
  have hfilter : (some value).filter Float.isFinite = some value := if_pos hvalue
  rw [argument, htrim, readFloat?_chars_self hvalue, hfilter]

theorem isFinite_of_argument {cs : List Char} {value : Float}
    (hargument : argument name cs = .ok value) : value.isFinite = true := by
  unfold argument at hargument
  split at hargument
  next found hfound =>
    cases hargument
    exact (Option.filter_eq_some_iff.mp hfound).2
  · cases hargument

theorem isFinite_of_arguments {inner : List Char} (harguments : arguments name inner = .ok values) :
    ∀ value ∈ values, value.isFinite = true := by
  unfold arguments at harguments
  split at harguments
  · cases harguments
    exact nofun
  · exact forall_of_mapM_eq_ok harguments fun _ _ => isFinite_of_argument

/-- The arguments of a call as they are printed. -/
def printedArguments (values : List Float) : List Char :=
  [','].intercalate (values.map plain.chars)

theorem toList_text_call (c : Call) : (Operand.call c).text.toList =
    c.name.toList ++ '(' :: (printedArguments c.arguments ++ [')']) := by
  have harguments : (",".intercalate (c.arguments.map plain.text)).toList =
      printedArguments c.arguments := by
    rw [String.toList_intercalate, List.map_map, printedArguments]
    congr 2
    funext value
    exact String.toList_ofList
  rw [Operand.text, String.toList_append, String.toList_append, String.toList_append, harguments,
    List.append_assoc, List.append_assoc]
  rfl

theorem eq_or_mem_of_mem_printedArguments {c : Char} (hc : c ∈ printedArguments values) :
    c = ',' ∨ ∃ value ∈ values, c ∈ plain.chars value := by
  rcases eq_or_mem_of_mem_intercalate hc with hcomma | ⟨cs, hcs, hc⟩
  · exact .inl hcomma
  · obtain ⟨value, hvalue, rfl⟩ := List.mem_map.mp hcs
    exact .inr ⟨value, hvalue, hc⟩

theorem trim_printedArguments_cons {first : Float} (others : List Float)
    (hfirst : first.isFinite = true) :
    (trim (printedArguments (first :: others))).isEmpty = false := by
  obtain ⟨b, hparts⟩ := exists_parts hfirst
  obtain ⟨c, cs, hcs⟩ := List.exists_cons_of_ne_nil (chars_ne_nil hparts)
  have hc : isBlank c = false := isBlank_of_mem_chars hfirst (hcs ▸ List.mem_cons_self)
  have hstart : printedArguments (first :: others) =
      c :: [','].intercalate (cs :: others.map plain.chars) := by
    rw [printedArguments, List.map_cons, hcs, List.intercalate_cons_cons_left]
  rw [hstart, List.isEmpty_eq_false_iff, ne_eq, trim_eq_nil_iff]
  intro hblank
  have := hblank c List.mem_cons_self
  rw [hc] at this
  cases this

/-- Printed arguments are read again. -/
theorem arguments_printed (hvalues : ∀ value ∈ values, value.isFinite = true) :
    arguments name (printedArguments values) = .ok values := by
  cases values with
  | nil => rfl
  | cons first others =>
      -- the commas are those between the arguments, since no number is printed with one
      have hcomma : ∀ cs ∈ (first :: others).map plain.chars, ',' ∉ cs := by
        intro cs hcs
        obtain ⟨value, hvalue, rfl⟩ := List.mem_map.mp hcs
        exact not_mem_chars (hvalues value hvalue) rfl (by decide) (by decide)
      have hsplit := List.splitOn_intercalate ',' hcomma (List.cons_ne_nil _ _)
      have hsolid := trim_printedArguments_cons others (hvalues first List.mem_cons_self)
      rw [arguments, hsolid, if_neg (by decide), printedArguments, hsplit]
      exact mapM_map_eq_ok fun value hvalue => argument_chars (hvalues value hvalue)

theorem ruleOf_text_call {c : Call} (hname : IsCallable c.name)
    (hvalues : ∀ value ∈ c.arguments, value.isFinite = true) :
    ruleOf (Operand.call c).text = .call := by
  have hopening : '(' ∈ (Operand.call c).text.toList := by simp [toList_text_call]
  have hliteral : literal? (Operand.call c).text.toList = none :=
    literal?_eq_none hopening (by decide) (by decide)
  have hcolumn : (Operand.call c).text ∉ Frame.columns := by
    have hopen : ∀ column ∈ Frame.columns, '(' ∉ column.toList := by decide
    exact fun hmem => hopen _ hmem hopening
  have hclosing : (Operand.call c).text.toList ≠ [')'] := by
    intro h
    rw [h] at hopening
    exact absurd hopening (by decide)
  have hending : (Operand.call c).text.toList.getLast? = some ')' := by
    simp [toList_text_call, List.getLast?_append, List.getLast?_cons]
  -- without an f there is no word shift, whatever points the arguments have
  have hletter : 'f' ∉ (Operand.call c).text.toList := by
    rw [toList_text_call]
    intro hletter
    rcases List.mem_append.mp hletter with hletter | hletter
    · exact hname.shift hletter
    have hletter := (List.mem_cons.mp hletter).resolve_left (by decide)
    rcases List.mem_append.mp hletter with hletter | hletter
    · rcases eq_or_mem_of_mem_printedArguments hletter with hcomma | ⟨value, hvalue, hletter⟩
      · cases hcomma
      · exact not_mem_chars (hvalues value hvalue) rfl (by decide) (by decide) hletter
    · exact absurd hletter (by decide)
  have hshift : ¬('.' ∈ (Operand.call c).text.toList ∧
      occurs "shift".toList (Operand.call c).text.toList = true) :=
    fun h => hletter (mem_of_occurs h.2 (by decide))
  simp only [ruleOf, hliteral, if_neg hcolumn, if_neg hclosing, if_pos hending, if_neg hshift]

/-- A call of an indicator with finite arguments is read again. -/
theorem tokenOf_text_call {scope : Scope} {c : Call} (hname : IsCallable c.name)
    (hcontains : scope.registry.contains c.name = true)
    (hvalues : ∀ value ∈ c.arguments, value.isFinite = true) :
    scope.tokenOf (Operand.call c).text = .ok (.operand (.call c)) := by
  have hsplit : splitFirst '(' (Operand.call c).text.toList =
      some (c.name.toList, printedArguments c.arguments ++ [')']) :=
    splitFirst_eq_some_iff.mpr ⟨toList_text_call c, hname.opening⟩
  obtain ⟨first, rest, hfirst⟩ := List.exists_cons_of_ne_nil hname.nonempty
  have hname' : String.ofList (first :: rest) = c.name := by
    rw [← hfirst, String.ofList_toList]
  rw [tokenOf_eq_read, ruleOf_text_call hname hvalues, Rule.read, call, hsplit, hfirst]
  simp only [hname', hcontains, if_true, List.dropLast_concat, arguments_printed hvalues]
  rfl

theorem isWord_text_call {c : Call} (hname : IsCallable c.name)
    (hvalues : ∀ value ∈ c.arguments, value.isFinite = true) : IsWord (Operand.call c).text := by
  constructor
  · simp [toList_text_call]
  · intro d hd
    rw [toList_text_call] at hd
    rcases List.mem_append.mp hd with hd | hd
    · exact hname.solid d hd
    rcases List.mem_cons.mp hd with rfl | hd
    · decide
    rcases List.mem_append.mp hd with hd | hd
    · rcases eq_or_mem_of_mem_printedArguments hd with rfl | ⟨value, hvalue, hd⟩
      · decide
      · exact isBlank_of_mem_chars (hvalues value hvalue) hd
    · obtain rfl := List.mem_singleton.mp hd
      decide

/-! ## All operands -/

theorem bounds_of_readInt64? {cs : List Char} {value : Int} (hread : readInt64? cs = some value) :
    lowest64 ≤ value ∧ value ≤ highest64 := by
  rw [readInt64?, readInteger?] at hread
  generalize splitSign cs = signed at hread
  obtain ⟨negative, body⟩ := signed
  obtain ⟨size, -, hread⟩ := Option.bind_eq_some_iff.mp hread
  dsimp only at hread
  generalize (if negative = true then -(size : Int) else size) = found at hread
  split at hread
  case isTrue hbounds =>
    cases hread
    exact hbounds
  case isFalse => cases hread

theorem isFinite_of_call {scope : Scope} {text : String} {c : Call}
    (htoken : scope.call text = .ok (.operand (.call c))) :
    ∀ value ∈ c.arguments, value.isFinite = true := by
  unfold call at htoken
  split at htoken
  · cases htoken
  · cases htoken
  · dsimp only at htoken
    split at htoken
    · obtain ⟨values, hvalues, hcall⟩ := map_eq_ok htoken
      cases hcall
      exact isFinite_of_arguments hvalues
    · cases htoken

/-- Where an operand came from, with what reading it made sure of. -/
inductive ReadFrom (scope : Scope) (text : String) : Operand → Prop
  | literal {value : Float} (hliteral : literal? text.toList = some value) :
      ReadFrom scope text (.literal value)
  | word {o : Operand} (htext : o.text = text) : ReadFrom scope text o
  | call {c : Call} (hcontains : scope.registry.contains c.name = true)
      (hvalues : ∀ value ∈ c.arguments, value.isFinite = true) : ReadFrom scope text (.call c)
  | lag {name : String} {periods : Int} {number : Nat}
      (hparts : lagParts? text.toList = some (name, periods))
      (hfind : scope.bindings.find? name = some number) :
      ReadFrom scope text (.lag name periods number)

variable {scope : Scope} {text : String} {o : Operand}

theorem literal?_of_ruleOf {value : Float} (hrule : ruleOf text = .literal value) :
    literal? text.toList = some value := by
  simp only [ruleOf] at hrule
  split at hrule
  next found hfound =>
    cases hrule
    exact hfound
  split at hrule
  · cases hrule
  split at hrule
  · cases hrule
  split at hrule
  · split at hrule <;> cases hrule
  split at hrule
  · cases hrule
  split at hrule <;> cases hrule

theorem readFrom_of_tokenOf (htoken : scope.tokenOf text = .ok (.operand o)) :
    scope.ReadFrom text o := by
  rw [tokenOf_eq_read] at htoken
  cases hrule : ruleOf text with
  | literal value =>
      rw [hrule] at htoken
      cases htoken
      exact .literal (literal?_of_ruleOf hrule)
  | column =>
      rw [hrule] at htoken
      cases htoken
      exact .word rfl
  | lag =>
      rw [hrule] at htoken
      obtain ⟨name, periods, number, hparts, hfind, hlag⟩ := exists_of_lag_eq_ok htoken
      cases hlag
      exact .lag hparts hfind
  | call =>
      rw [hrule] at htoken
      obtain ⟨c, hcontains, hcall⟩ := exists_of_call_eq_ok htoken
      cases hcall
      exact .call hcontains (isFinite_of_call htoken)
  | name =>
      rw [hrule, Rule.read] at htoken
      split at htoken
      · cases htoken
        exact .word rfl
      · cases htoken
  | closing =>
      rw [hrule] at htoken
      cases htoken
  | operator op =>
      rw [hrule] at htoken
      cases htoken
  | opening =>
      rw [hrule] at htoken
      cases htoken

/-- What is read as an operand is read again from what is printed for it. -/
theorem tokenOf_text (hcallable : ∀ name, scope.registry.contains name = true → IsCallable name)
    (htoken : scope.tokenOf text = .ok (.operand o))
    (hfinite : ∀ value, o = .literal value → value.isFinite = true) :
    scope.tokenOf o.text = .ok (.operand o) := by
  cases readFrom_of_tokenOf htoken with
  | literal hliteral => exact tokenOf_plain hliteral (hfinite _ rfl)
  | word htext =>
      rw [htext]
      exact htoken
  | call hcontains hvalues => exact tokenOf_text_call (hcallable _ hcontains) hcontains hvalues
  | @lag name periods number hparts hfind =>
      obtain ⟨inner, -, hpoint, hread⟩ := lagParts?_eq_some_iff.mp hparts
      obtain ⟨hlow, hhigh⟩ := bounds_of_readInt64? hread
      show scope.tokenOf (lagOf name periods) = _
      rw [tokenOf_lagOf, lag, lagParts?_lagOf hpoint hlow hhigh]
      simp only [hfind]

/-- There is no blank character in what is printed for a word. -/
theorem isWord_text (hcallable : ∀ name, scope.registry.contains name = true → IsCallable name)
    (hword : IsWord text) (htoken : scope.tokenOf text = .ok (.operand o))
    (hfinite : ∀ value, o = .literal value → value.isFinite = true) : IsWord o.text := by
  cases readFrom_of_tokenOf htoken with
  | @literal value hliteral =>
      have hvalue := hfinite value rfl
      obtain ⟨b, hparts⟩ := exists_parts hvalue
      have htext : (Operand.literal value).text.toList = plain.chars value := String.toList_ofList
      exact ⟨htext ▸ chars_ne_nil hparts, htext ▸ fun c hc => isBlank_of_mem_chars hvalue hc⟩
  | word htext =>
      rw [htext]
      exact hword
  | call hcontains hvalues => exact isWord_text_call (hcallable _ hcontains) hvalues
  | @lag name periods number hparts hfind =>
      obtain ⟨inner, htext, -, -⟩ := lagParts?_eq_some_iff.mp hparts
      refine isWord_lagOf (fun c hc => hword.solid c ?_) periods
      rw [htext]
      exact List.mem_append_left _ hc

/-! ## Lexemes -/

theorem isWord_of_spaced {cs : List Char} {words : List String} (hspaced : Spaced cs words)
    {word : String} (hword : word ∈ words) : IsWord word := by
  induction hspaced with
  | nil => cases hword
  | blank _ _ ih => exact ih hword
  | word first hfirst hsolid _ _ ih =>
      rcases List.mem_cons.mp hword with rfl | hword
      · exact ⟨hfirst, hsolid⟩
      · exact ih hword

theorem isWord_of_mem_ofText {source : String} {lexeme : Lexeme}
    (hlexeme : lexeme ∈ Lexeme.ofText source) : IsWord lexeme.text :=
  isWord_of_spaced (Spaced.scan 0 source.toList) (List.mem_map_of_mem hlexeme)

theorem classify_eq_ok_iff {lexeme : Lexeme} {token : Token} :
    classify scope lexeme = .ok token ↔ scope.tokenOf lexeme.text = .ok token := by
  rw [classify]
  constructor
  · exact mapError_eq_ok
  · intro htoken
    rw [htoken]
    rfl

/-- **Printed operands are read back.**  With the standard indicators, a lexeme that stands for a column,
a call, a variable, a lag or a finite number stands for the same as what is printed for it, wherever
that stands; and what is printed for a lexeme of a formula has no blank characters in it, so it is a
lexeme again. -/
theorem classify_text {bindings : Bindings} {lexeme : Lexeme} {o : Operand}
    (hclassify : classify ⟨.standard, bindings⟩ lexeme = .ok (.operand o))
    (hfinite : ∀ value, o = .literal value → value.isFinite = true) :
    (∀ position, classify ⟨.standard, bindings⟩ ⟨(Node.operand o).text, position⟩ =
      .ok (.operand o)) ∧
    ∀ source, lexeme ∈ Lexeme.ofText source →
      ∀ c ∈ (Node.operand o).text.toList, isBlank c = false := by
  have hcallable : ∀ name, Registry.standard.contains name = true → IsCallable name :=
    fun _ => isCallable_standard
  have htoken := classify_eq_ok_iff.mp hclassify
  constructor
  · intro position
    exact classify_eq_ok_iff.mpr (tokenOf_text hcallable htoken hfinite)
  · intro source hlexeme
    exact (isWord_text hcallable (isWord_of_mem_ofText hlexeme) htoken hfinite).solid

/-- A number that is written with needless digits is printed without them. -/
theorem classify_text_needless : (Node.operand (.literal 7.5)).text = "7.5" ∧
    (∀ position, classify ⟨.standard, .empty⟩ ⟨"7.5", position⟩ = .ok (.operand (.literal 7.5))) ∧
    ∀ c ∈ "7.5".toList, isBlank c = false := by
  have htext : (Node.operand (.literal 7.5)).text = "7.5" := by decide +kernel
  have hliteral : literal? "007.50".toList = some 7.5 := by decide +kernel
  have hclassify : classify ⟨.standard, .empty⟩ ⟨"007.50", 0⟩ = .ok (.operand (.literal 7.5)) :=
    classify_eq_ok_iff.mpr (by simp only [tokenOf, hliteral])
  have hword : IsWord "007.50" := ⟨by decide, solid_of_all (by decide)⟩
  obtain ⟨hread, hsolid⟩ := classify_text hclassify
    (by rintro value ⟨⟩; decide +kernel)
  have hlexeme : (⟨"007.50", 0⟩ : Lexeme) ∈ Lexeme.ofText "007.50" := by
    rw [Lexeme.ofText_word hword]
    exact List.mem_singleton_self _
  rw [htext] at hread hsolid
  exact ⟨htext, hread, hsolid "007.50" hlexeme⟩

end Scope

end Screener
