import Screener.Proofs.Formula.Faults
import Screener.Proofs.Formula.Runs

/-!
# The caret under a lexeme

A compile error carries the byte at which its lexeme starts, and a caret is shown below the text
after as many spaces.  The byte is always a place between characters, and a lexeme that is to blame
starts there.  But the bytes before the lexeme are as many as the characters only if each character
before it has one byte: then and only then the caret stands under the lexeme
(`Formula.compile_caret`).

## Strategy

The lexeme is the one of `Fails`; that it is a run of the text (`Lexeme.mem_ofText_iff`) gives the
part of the text before it, and its position is the number of bytes of that part.  What is shown has
three lines, so the caret's line is the second one whatever the others hold (`Text.getElem?_lines`).
-/

namespace Screener

/-! ## Lines -/

namespace Text

/-- The piece between the first two line feeds of a text is its second line. -/
theorem getElem?_lines {first second : List Char} (rest : List Char) (hfirst : '\n' ∉ first)
    (hsecond : '\n' ∉ second) (hlast : second.getLast? ≠ some '\r') :
    (lines (first ++ '\n' :: (second ++ '\n' :: rest)))[1]? = some second := by
  have hpieces : (first ++ '\n' :: (second ++ '\n' :: rest)).splitOn '\n' =
      [first, second] ++ rest.splitOn '\n' := by
    rw [List.splitOn_append_cons_self, List.splitOn_append_cons_self,
      List.splitOn_eq_singleton hfirst, List.splitOn_eq_singleton hsecond]
    rfl
  have hclosed : (['\r'].isSuffixOf? second).getD second = second := by
    cases hsuffix : ['\r'].isSuffixOf? second with
    | none => rfl
    | some short =>
        refine absurd ?_ hlast
        rw [← List.isSuffixOf?_eq_some_iff_append_eq.mp hsuffix, List.getLast?_concat]
  rw [lines, hpieces, List.dropLast_append_of_ne_nil (List.splitOn_ne_nil '\n' rest)]
  simp only [List.map_append, List.map_cons, List.map_nil, hclosed]
  split <;> rfl

/-- A text has at least as many bytes as characters. -/
theorem length_le_byteLength (cs : List Char) : cs.length ≤ byteLength cs := by
  induction cs with
  | nil => exact Nat.le_refl 0
  | cons c rest ih =>
      have hsize := c.utf8Size_pos
      rw [List.length_cons, byteLength_cons]
      omega

/-- A text has as many bytes as characters if every character has one byte, and only then. -/
theorem byteLength_eq_length_iff (cs : List Char) :
    byteLength cs = cs.length ↔ ∀ c ∈ cs, c.utf8Size = 1 := by
  induction cs with
  | nil => simp
  | cons c rest ih =>
      have hsize := c.utf8Size_pos
      have hrest := length_le_byteLength rest
      rw [byteLength_cons, List.length_cons, List.forall_mem_cons, ← ih]
      omega

end Text

/-! ## The line of the caret -/

namespace CompileError

/-- Below a text of one line the caret comes after as many spaces as the error's position. -/
theorem getElem?_lines_inContext (e : CompileError) {text : String} (hline : '\n' ∉ text.toList) :
    (Text.lines (e.inContext text).toList)[1]? =
      some (List.replicate e.position ' ' ++ ['^']) := by
  have hshown : (e.inContext text).toList =
      text.toList ++ '\n' :: ((List.replicate e.position ' ' ++ ['^']) ++
        '\n' :: e.message.toList) := by
    simp [inContext]
  rw [hshown]
  apply Text.getElem?_lines _ hline
  · simp
  · simp

/-- The caret is shown below a text after as many spaces as the part `before` has characters. -/
def CaretUnder (e : CompileError) (text before : String) : Prop :=
  (Text.lines (e.inContext text).toList)[1]? =
    some (List.replicate before.toList.length ' ' ++ ['^'])

theorem caretUnder_iff (e : CompileError) {text before after : String} {lexeme : Lexeme}
    (hline : '\n' ∉ text.toList) (hstands : Lexeme.StandsIn text before lexeme after)
    (hposition : e.position = lexeme.position) :
    e.CaretUnder text before ↔ ∀ c ∈ before.toList, c.utf8Size = 1 := by
  rw [CaretUnder, e.getElem?_lines_inContext hline, hposition, hstands.position,
    ← Text.byteLength_toList, ← Text.byteLength_eq_length_iff]
  constructor
  · intro hcaret
    have hlength := congrArg List.length (Option.some.inj hcaret)
    simpa using hlength
  · intro hlength
    rw [hlength]

end CompileError

/-! ## The lexeme that is to blame -/

/-- A lexeme between others is to blame for an error: reading stops at it, or it is the last opening
parenthesis that is never closed. -/
inductive FailsAt (scope : Scope) (earlier : List Lexeme) (lexeme : Lexeme) (later : List Lexeme) :
    CompileError → Prop
  | stopped {e : CompileError} (hearlier : Readable scope earlier)
      (hstops : StopsAt scope earlier lexeme e) : FailsAt scope earlier lexeme later e
  | unclosed (hreadable : Readable scope (earlier ++ lexeme :: later))
      (hopening : lexeme.text = "(") (hnever : Lexeme.ClosesNone later)
      (hlast : ∀ between other rest, later = between ++ other :: rest → other.text = "(" →
        ¬Lexeme.ClosesNone rest) :
      FailsAt scope earlier lexeme later ⟨.mismatchedParentheses, lexeme.position⟩

theorem StopsAt.position_eq {scope : Scope} {before : List Lexeme} {lexeme : Lexeme}
    {e : CompileError} (hstops : StopsAt scope before lexeme e) : e.position = lexeme.position := by
  cases hstops with
  | meaningless htoken => rfl
  | unopened hclosing hbefore => rfl

theorem FailsAt.position_eq {scope : Scope} {earlier later : List Lexeme} {lexeme : Lexeme}
    {e : CompileError} (hfailsAt : FailsAt scope earlier lexeme later e) :
    e.position = lexeme.position := by
  cases hfailsAt with
  | stopped hearlier hstops => exact hstops.position_eq
  | unclosed hreadable hopening hnever hlast => rfl

theorem Fails.exists_failsAt {scope : Scope} {lexemes : List Lexeme} {e : CompileError}
    (hfails : Fails scope lexemes e) :
    (lexemes = [] ∧ e = ⟨.emptyExpression, 0⟩) ∨
      ∃ earlier lexeme later, lexemes = earlier ++ lexeme :: later ∧
        FailsAt scope earlier lexeme later e := by
  cases hfails with
  | empty => exact .inl ⟨rfl, rfl⟩
  | @stopped earlier later lexeme _ hearlier hstops =>
      exact .inr ⟨earlier, lexeme, later, rfl, .stopped hearlier hstops⟩
  | @unclosed earlier later opening hreadable hopening hnever hlast =>
      exact .inr ⟨earlier, opening, later, rfl, .unclosed hreadable hopening hnever hlast⟩

theorem Lexeme.exists_standsIn {source : String} {earlier later : List Lexeme}
    {lexeme : Lexeme} (hsplit : Lexeme.ofText source = earlier ++ lexeme :: later) :
    ∃ before after, Lexeme.StandsIn source before lexeme after := by
  apply Lexeme.mem_ofText_iff.mp
  rw [hsplit]
  exact List.mem_append_right earlier List.mem_cons_self

namespace Formula

/-- **Where the caret stands.**  The position of a compile error is a place between characters.  It
is 0 for a text without lexemes; else it is that of a lexeme that is to blame, which stands in the
text there.  Below a text of one line the caret comes after as many spaces as there are bytes before
the position.  So it stands under the lexeme if every character before the lexeme has one byte, and
otherwise to the right of it. -/
theorem compile_caret (scope : Scope) {source : String} (hline : '\n' ∉ source.toList)
    {e : CompileError} (herror : compile scope source = .error e) :
    (String.Pos.Raw.mk e.position).IsValid source ∧
    ((Lexeme.ofText source = [] ∧ e = ⟨.emptyExpression, 0⟩) ∨
      ∃ earlier lexeme later, Lexeme.ofText source = earlier ++ lexeme :: later ∧
        FailsAt scope earlier lexeme later e ∧ e.position = lexeme.position ∧
        ∃ before after, Lexeme.StandsIn source before lexeme after) ∧
    (Text.lines (e.inContext source).toList)[1]? =
      some (List.replicate e.position ' ' ++ ['^']) ∧
    ∀ before lexeme after, Lexeme.StandsIn source before lexeme after →
      e.position = lexeme.position →
      (e.CaretUnder source before ↔ ∀ c ∈ before.toList, c.utf8Size = 1) := by
  have hcaret := e.getElem?_lines_inContext hline
  have hunder : ∀ before lexeme after, Lexeme.StandsIn source before lexeme after →
      e.position = lexeme.position →
      (e.CaretUnder source before ↔ ∀ c ∈ before.toList, c.utf8Size = 1) :=
    fun _ _ _ hstands hposition => e.caretUnder_iff hline hstands hposition
  rcases ((compile_eq_error_iff source e).mp herror).exists_failsAt with
    ⟨hempty, rfl⟩ | ⟨earlier, lexeme, later, hsplit, hfailsAt⟩
  · have hstart : (String.Pos.Raw.mk 0).IsValid source :=
      String.Pos.Raw.isValid_iff_exists_append.mpr ⟨"", source, by simp, rfl⟩
    exact ⟨hstart, .inl ⟨hempty, rfl⟩, hcaret, hunder⟩
  · obtain ⟨before, after, hstands⟩ := Lexeme.exists_standsIn hsplit
    have hposition := hfailsAt.position_eq
    refine ⟨?_, .inr ⟨earlier, lexeme, later, hsplit, hfailsAt, hposition, before, after, hstands⟩,
      hcaret, hunder⟩
    rw [hposition]
    exact hstands.isSlice.starts

/-- A name of two bytes moves the caret: the word `foo` comes after four characters and the caret
after five spaces. -/
theorem compile_caret_accentedName :
    let scope : Scope :=
      ⟨.standard, Bindings.empty.define "é" ⟨"close", [.operand (.column "close")]⟩⟩
    let source := "é > foo"
    let e : CompileError := ⟨.unknownToken "foo", 5⟩
    '\n' ∉ source.toList ∧ compile scope source = .error e ∧
    (String.Pos.Raw.mk 5).IsValid source ∧ Lexeme.StandsIn source "é > " ⟨"foo", 5⟩ "" ∧
    (Text.lines (e.inContext source).toList)[1]? = some "     ^".toList ∧
    ¬e.CaretUnder source "é > " := by
  intro scope source e
  have hline : '\n' ∉ source.toList := by decide
  have hlexemes : Lexeme.ofText source = [⟨"é", 0⟩, ⟨">", 3⟩, ⟨"foo", 5⟩] := by decide +kernel
  have herror : compile scope source = .error e := by
    rw [compile, hlexemes]
    rfl
  have hrun : Text.IsRun "é > ".toList "foo".toList "".toList := by
    refine ⟨by decide, Scope.solid_of_all (by decide), ?_, by simp⟩
    rintro c ⟨⟩
    rfl
  have hstands : Lexeme.StandsIn source "é > " ⟨"foo", 5⟩ "" := ⟨by decide, by decide, hrun⟩
  obtain ⟨hvalid, -, hcaret, hunder⟩ := compile_caret scope hline herror
  have htwoBytes : ¬∀ c ∈ "é > ".toList, c.utf8Size = 1 := by
    intro hall
    exact absurd (hall 'é' (by decide)) (by decide)
  exact ⟨hline, herror, hvalid, hstands, hcaret, mt (hunder _ _ _ hstands rfl).mp htwoBytes⟩

end Formula

end Screener
