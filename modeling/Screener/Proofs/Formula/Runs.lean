import Screener.Proofs.Formula.Agreement
import Screener.Proofs.Formula.Places
import Screener.Proofs.Formula.Replacement

/-!
# The lexemes of a text are its runs

A run of a text is a part of it without blank characters that nothing can be added to: before it the
text begins or has a blank character, and after it the text ends or has one.  The lexemes of a text
are all its runs from left to right, each with the byte at which it begins (`Lexeme.ofText_runs`).
So the bytes outside them are those of blank characters, and what a text compiles to does not depend
on the blank characters between its words.

## Strategy

A text is taken apart as `Spaced` builds it, by a blank character or by a word at a time.  A run of
the whole is then the first word or a run of the rest: it cannot begin in the middle of the first
word, because a run begins after a blank character, and it cannot go on after the word, because a
blank character follows (`Lexeme.mem_scan_iff`).
-/

namespace Screener

namespace Text

/-! ## Runs -/

/-- Whether the middle of three parts of a text is a run of it. -/
structure IsRun (before run after : List Char) : Prop where
  nonempty : run ≠ []
  solid : ∀ c ∈ run, isBlank c = false
  starts : ∀ c ∈ before.getLast?, isBlank c = true
  ends : ∀ c ∈ after.head?, isBlank c = true

namespace IsRun

variable {before run after : List Char}

theorem exists_cons (hrun : IsRun before run after) :
    ∃ c rest, run = c :: rest ∧ isBlank c = false := by
  obtain ⟨c, rest, rfl⟩ := List.exists_cons_of_ne_nil hrun.nonempty
  exact ⟨c, rest, rfl, hrun.solid c List.mem_cons_self⟩

/-- A text with a run does not begin with a blank character unless something comes before the
run. -/
theorem ne_nil_of_head? (hrun : IsRun before run after)
    (hhead : ∀ c ∈ (before ++ run ++ after).head?, isBlank c = true) : before ≠ [] := by
  rintro rfl
  obtain ⟨c, rest, rfl, hsolid⟩ := hrun.exists_cons
  rw [hhead c rfl] at hsolid
  cases hsolid

/-- A run stays one if some of what comes before it is cut off. -/
theorem of_append (first : List Char) (hrun : IsRun (first ++ before) run after) :
    IsRun before run after where
  nonempty := hrun.nonempty
  solid := hrun.solid
  starts := by
    intro c hc
    apply hrun.starts
    rw [List.getLast?_append, hc]
    rfl
  ends := hrun.ends

/-- A run stays one if the text begins with more, unless that is in front of the run itself. -/
theorem append (hrun : IsRun before run after) (first : List Char) (hbefore : before ≠ []) :
    IsRun (first ++ before) run after where
  nonempty := hrun.nonempty
  solid := hrun.solid
  starts := by
    rw [List.getLast?_append_of_ne_nil first hbefore]
    exact hrun.starts
  ends := hrun.ends

theorem cons_blank (hrun : IsRun before run after) {c : Char} (hblank : isBlank c = true) :
    IsRun (c :: before) run after := by
  by_cases hbefore : before = []
  · subst hbefore
    exact ⟨hrun.nonempty, hrun.solid, by simpa using hblank, hrun.ends⟩
  · exact hrun.append [c] hbefore

/-- A run that begins a text is the word that begins it. -/
theorem eq_of_append_eq {word text : List Char} (hrun : IsRun [] run after)
    (hsolid : ∀ c ∈ word, isBlank c = false) (hend : ∀ c ∈ text.head?, isBlank c = true)
    (hsplit : run ++ after = word ++ text) : run = word ∧ after = text := by
  have hword : run = word := by
    rw [← Lexeme.takeWhile_solid hrun.solid hrun.ends, hsplit, Lexeme.takeWhile_solid hsolid hend]
  exact ⟨hword, List.append_cancel_left (hword ▸ hsplit)⟩

/-- A run with something before it comes after the word that begins the text. -/
theorem exists_of_append_eq {word text : List Char} (hrun : IsRun before run after)
    (hbefore : before ≠ []) (hsolid : ∀ c ∈ word, isBlank c = false)
    (hsplit : before ++ run ++ after = word ++ text) :
    ∃ between, before = word ++ between ∧ text = between ++ run ++ after := by
  rw [List.append_assoc] at hsplit
  rcases List.append_eq_append_iff.mp hsplit with ⟨inner, rfl, -⟩ | ⟨between, rfl, htext⟩
  · -- the run would begin in the middle of the word, after a character that is not blank
    have hlast := List.getLast?_eq_some_getLast hbefore
    have hblank := hrun.starts _ hlast
    rw [hsolid _ (List.mem_append_left inner (List.getLast_mem hbefore))] at hblank
    cases hblank
  · exact ⟨between, rfl, by rw [htext, List.append_assoc]⟩

end IsRun

/-! ## Bytes -/

theorem byteLength_toList (text : String) : byteLength text.toList = text.utf8ByteSize := by
  have hchars : ∀ cs : List Char, byteLength cs = (String.ofList cs).utf8ByteSize := by
    intro cs
    induction cs with
    | nil => rfl
    | cons c rest ih =>
        rw [byteLength_cons, ih, String.ofList_cons, String.utf8ByteSize_append,
          String.utf8ByteSize_singleton]
  rw [hchars, String.ofList_toList]

theorem byteLength_pos {cs : List Char} (hcs : cs ≠ []) : 0 < byteLength cs := by
  obtain ⟨c, rest, rfl⟩ := List.exists_cons_of_ne_nil hcs
  exact Nat.add_pos_left c.utf8Size_pos _

/-- Whether a byte of a text is one of those of a blank character. -/
def BlankAt (cs : List Char) (byte : Nat) : Prop :=
  ∃ before c after, cs = before ++ c :: after ∧ byteLength before ≤ byte ∧
    byte < byteLength before + c.utf8Size ∧ isBlank c = true

theorem BlankAt.append {cs : List Char} {byte : Nat} (hblank : BlankAt cs byte)
    (first : List Char) : BlankAt (first ++ cs) (byteLength first + byte) := by
  obtain ⟨before, c, after, rfl, hlow, hhigh, hc⟩ := hblank
  refine ⟨first ++ before, c, after, by simp, ?_, ?_, hc⟩
  · rw [byteLength_append]
    omega
  · rw [byteLength_append]
    omega

end Text

/-! ## Lexemes and runs -/

namespace Lexeme

open Text

/-- The lexemes of a text that starts at some byte are the runs of the text. -/
theorem mem_scan_iff {cs : List Char} {words : List String} (hspaced : Spaced cs words)
    (position : Nat) (lexeme : Lexeme) :
    lexeme ∈ scan position cs ↔ ∃ before after, cs = before ++ lexeme.text.toList ++ after ∧
      lexeme.position = position + byteLength before ∧
      IsRun before lexeme.text.toList after := by
  induction hspaced generalizing position with
  | nil =>
      rw [scan_nil]
      constructor
      · nofun
      · rintro ⟨before, after, hsplit, -, hrun⟩
        have hword := (List.append_eq_nil_iff.mp hsplit.symm).1
        exact absurd (List.append_eq_nil_iff.mp hword).2 hrun.nonempty
  | @blank c text _ hblank _ ih =>
      rw [scan_blank hblank, ih]
      constructor
      · rintro ⟨before, after, rfl, hposition, hrun⟩
        refine ⟨c :: before, after, rfl, ?_, hrun.cons_blank hblank⟩
        rw [hposition, byteLength_cons, Nat.add_assoc]
      · rintro ⟨before, after, hsplit, hposition, hrun⟩
        have hbefore : before ≠ [] := by
          apply hrun.ne_nil_of_head?
          rw [← hsplit]
          simpa using hblank
        obtain ⟨first, rest, rfl⟩ := List.exists_cons_of_ne_nil hbefore
        obtain ⟨rfl, htext⟩ := List.cons.inj hsplit
        refine ⟨rest, after, htext, ?_, hrun.of_append [c]⟩
        rw [hposition, byteLength_cons, Nat.add_assoc]
  | @word text _ word hword hsolid hend _ ih =>
      rw [scan_word hword hsolid hend, List.mem_cons, ih, String.ofList_toList]
      constructor
      · rintro (rfl | ⟨before, after, rfl, hposition, hrun⟩)
        · exact ⟨[], text, rfl, rfl, hword, hsolid, nofun, hend⟩
        · have hbefore : before ≠ [] := hrun.ne_nil_of_head? hend
          refine ⟨word.toList ++ before, after, by simp, ?_, hrun.append _ hbefore⟩
          rw [hposition, byteLength_append, Nat.add_assoc]
      · rintro ⟨before, after, hsplit, hposition, hrun⟩
        by_cases hbefore : before = []
        · subst hbefore
          obtain ⟨htext, -⟩ := hrun.eq_of_append_eq hsolid hend hsplit.symm
          left
          rw [String.toList_inj] at htext
          cases lexeme
          rw [Lexeme.mk.injEq]
          exact ⟨htext, hposition⟩
        · obtain ⟨between, rfl, htext⟩ := hrun.exists_of_append_eq hbefore hsolid hsplit.symm
          right
          refine ⟨between, after, htext, ?_, hrun.of_append word.toList⟩
          rw [hposition, byteLength_append, Nat.add_assoc]

/-- The lexemes come in the order of their positions. -/
theorem pairwise_scan {cs : List Char} {words : List String} (hspaced : Spaced cs words)
    (position : Nat) :
    (scan position cs).Pairwise fun first second => first.position < second.position := by
  induction hspaced generalizing position with
  | nil =>
      rw [scan_nil]
      exact .nil
  | blank hblank _ ih =>
      rw [scan_blank hblank]
      exact ih _
  | @word text _ word hword hsolid hend hrest ih =>
      rw [scan_word hword hsolid hend]
      refine .cons ?_ (ih _)
      intro lexeme hlexeme
      obtain ⟨before, after, -, hposition, -⟩ := (mem_scan_iff hrest _ lexeme).mp hlexeme
      have hlength := byteLength_pos hword
      show position < lexeme.position
      omega

/-! ## Bytes outside all lexemes -/

/-- Whether a byte of the text belongs to the lexeme. -/
def Covers (lexeme : Lexeme) (byte : Nat) : Prop :=
  lexeme.position ≤ byte ∧ byte < lexeme.position + lexeme.text.utf8ByteSize

/-- A byte of a text that belongs to no lexeme is one of a blank character. -/
theorem blankAt_of_not_covers {cs : List Char} {words : List String} (hspaced : Spaced cs words)
    (position : Nat) {byte : Nat} (hbyte : byte < byteLength cs)
    (hout : ∀ lexeme ∈ scan position cs, ¬lexeme.Covers (position + byte)) : BlankAt cs byte := by
  induction hspaced generalizing position byte with
  | nil => exact absurd hbyte (Nat.not_lt_zero byte)
  | @blank c text _ hblank _ ih =>
      rw [scan_blank hblank] at hout
      by_cases hfirst : byte < c.utf8Size
      · exact ⟨[], c, text, rfl, Nat.zero_le byte, by simpa using hfirst, hblank⟩
      · obtain ⟨rest, rfl⟩ := Nat.exists_eq_add_of_le (Nat.le_of_not_lt hfirst)
        rw [← Nat.add_assoc] at hout
        exact (ih _ (Nat.lt_of_add_lt_add_left hbyte) hout).append [c]
  | @word text _ word hword hsolid hend _ ih =>
      rw [scan_word hword hsolid hend, List.forall_mem_cons] at hout
      obtain ⟨hfirst, hout⟩ := hout
      rw [byteLength_append] at hbyte
      have hlarge : byteLength word.toList ≤ byte := by
        by_contra hsmall
        refine hfirst ⟨Nat.le_add_right position byte, ?_⟩
        rw [String.ofList_toList, ← byteLength_toList]
        show position + byte < position + byteLength word.toList
        omega
      obtain ⟨rest, rfl⟩ := Nat.exists_eq_add_of_le hlarge
      rw [← Nat.add_assoc] at hout
      exact (ih _ (Nat.lt_of_add_lt_add_left hbyte) hout).append word.toList

/-! ## Texts -/

/-- A lexeme of a text with what comes before it and after it: it is a run and carries the number of
bytes before it. -/
structure StandsIn (text before : String) (lexeme : Lexeme) (after : String) : Prop where
  split : text = before ++ lexeme.text ++ after
  position : lexeme.position = before.utf8ByteSize
  run : IsRun before.toList lexeme.text.toList after.toList

theorem mem_ofText_iff {text : String} {lexeme : Lexeme} :
    lexeme ∈ ofText text ↔ ∃ before after, StandsIn text before lexeme after := by
  rw [ofText, mem_scan_iff (Spaced.scan 0 text.toList)]
  constructor
  · rintro ⟨before, after, hsplit, hposition, hrun⟩
    refine ⟨String.ofList before, String.ofList after, ?_, ?_, by simpa using hrun⟩
    · rw [← String.toList_inj, hsplit]
      simp
    · rw [hposition, Nat.zero_add, ← byteLength_toList, String.toList_ofList]
  · rintro ⟨before, after, rfl, hposition, hrun⟩
    refine ⟨before.toList, after.toList, by simp, ?_, hrun⟩
    rw [hposition, byteLength_toList, Nat.zero_add]

/-- The text of a lexeme is cut out of the bytes of a text, at two places between characters. -/
structure IsSlice (text : String) (lexeme : Lexeme) : Prop where
  starts : (String.Pos.Raw.mk lexeme.position).IsValid text
  ends : (String.Pos.Raw.mk (lexeme.position + lexeme.text.utf8ByteSize)).IsValid text
  bytes : text.toByteArray.extract lexeme.position
    (lexeme.position + lexeme.text.utf8ByteSize) = lexeme.text.toByteArray

theorem StandsIn.isSlice {text before after : String} {lexeme : Lexeme}
    (hstands : StandsIn text before lexeme after) : IsSlice text lexeme := by
  obtain ⟨rfl, hposition, -⟩ := hstands
  refine ⟨?_, ?_, ?_⟩
  · rw [String.Pos.Raw.isValid_iff_exists_append]
    refine ⟨before, lexeme.text ++ after, String.append_assoc, ?_⟩
    rw [hposition]
    rfl
  · rw [String.Pos.Raw.isValid_iff_exists_append]
    refine ⟨before ++ lexeme.text, after, rfl, ?_⟩
    rw [hposition, ← String.utf8ByteSize_append]
    rfl
  · calc (before ++ lexeme.text ++ after).toByteArray.extract lexeme.position
          (lexeme.position + lexeme.text.utf8ByteSize)
        = (before.toByteArray ++ (lexeme.text.toByteArray ++ after.toByteArray)).extract
            (before.toByteArray.size + 0)
            (before.toByteArray.size + lexeme.text.toByteArray.size) := by
          rw [hposition, String.append_assoc, String.toByteArray_append, String.toByteArray_append]
          rfl
      _ = (lexeme.text.toByteArray ++ after.toByteArray).extract 0
            lexeme.text.toByteArray.size := ByteArray.extract_append_size_add
      _ = lexeme.text.toByteArray := ByteArray.extract_append_eq_left rfl

end Lexeme

/-! ## What texts with the same words compile to -/

/-- What a text compiles to, up to the place of an error, is decided by its words. -/
theorem Formula.compile_agree_of_words (scope : Scope) {source other : String}
    (hwords : Lexeme.words other = Lexeme.words source) :
    Agree (fun formula formula' : Formula => formula'.nodes = formula.nodes)
      ((compile scope source).mapError CompileError.fault)
      ((compile scope other).mapError CompileError.fault) := by
  have hfault : ∀ text, (compile scope text).mapError CompileError.fault =
      ((nodesOf scope (Lexeme.words text)).mapError CompileError.fault).map (⟨text, ·⟩) := by
    intro text
    have hunplaced := congrArg (Except.mapError CompileError.fault) (compile_unplaced scope text)
    rw [mapError_map] at hunplaced
    rw [← hunplaced]
    cases compile scope text <;> rfl
  rw [hfault, hfault, hwords]
  cases (nodesOf scope (Lexeme.words source)).mapError CompileError.fault with
  | error fault => exact .error fault
  | ok nodes => exact .ok rfl

namespace Lexeme

open Text

/-- **The lexemes of a text are its runs.**  They are all the runs of the text and nothing else, in
the order of their positions.  The text of each is cut out of the bytes of the text at its position,
between characters at both ends, and every byte outside is one of a blank character.  So texts with
the same words compile to the same nodes, or fail for the same reason. -/
theorem ofText_runs (text : String) :
    (ofText text).Pairwise (fun first second => first.position < second.position) ∧
    (∀ lexeme, lexeme ∈ ofText text ↔ ∃ before after, StandsIn text before lexeme after) ∧
    (∀ lexeme ∈ ofText text, IsSlice text lexeme) ∧
    (∀ byte < text.utf8ByteSize, (∀ lexeme ∈ ofText text, ¬lexeme.Covers byte) →
      BlankAt text.toList byte) ∧
    ∀ other, words other = words text → ∀ scope,
      Agree (fun formula formula' => formula'.nodes = formula.nodes)
        ((Formula.compile scope text).mapError CompileError.fault)
        ((Formula.compile scope other).mapError CompileError.fault) := by
  have hspaced := Spaced.scan 0 text.toList
  refine ⟨pairwise_scan hspaced 0, fun lexeme => mem_ofText_iff, ?_, ?_, ?_⟩
  · intro lexeme hlexeme
    obtain ⟨before, after, hstands⟩ := mem_ofText_iff.mp hlexeme
    exact hstands.isSlice
  · intro byte hbyte hout
    rw [← byteLength_toList] at hbyte
    apply blankAt_of_not_covers hspaced 0 hbyte
    rwa [Nat.zero_add]
  · intro other hwords scope
    exact Formula.compile_agree_of_words scope hwords

/-- Between two of the words stands a blank character of three bytes. -/
theorem ofText_runs_wideSpace :
    let text := "é\u3000> 1"
    let other := " é > 1 "
    ⟨">", 5⟩ ∈ ofText text ∧ (∃ before after, StandsIn text before ⟨">", 5⟩ after) ∧
    IsSlice text ⟨">", 5⟩ ∧
    3 < text.utf8ByteSize ∧ (∀ lexeme ∈ ofText text, ¬lexeme.Covers 3) ∧
    BlankAt text.toList 3 ∧
    words other = words text ∧ ∀ scope,
      Agree (fun formula formula' => formula'.nodes = formula.nodes)
        ((Formula.compile scope text).mapError CompileError.fault)
        ((Formula.compile scope other).mapError CompileError.fault) := by
  intro text other
  have hlexemes : ofText text = [⟨"é", 0⟩, ⟨">", 5⟩, ⟨"1", 7⟩] := by decide +kernel
  have hmem : ⟨">", 5⟩ ∈ ofText text := by simp [hlexemes]
  have hsize : 3 < text.utf8ByteSize := by decide
  have hout : ∀ lexeme ∈ ofText text, ¬lexeme.Covers 3 := by
    simp only [hlexemes, List.forall_mem_cons, Covers]
    decide
  have hwords : words other = words text := by decide +kernel
  obtain ⟨-, hruns, hslices, hblank, hcompile⟩ := ofText_runs text
  exact ⟨hmem, (hruns _).mp hmem, hslices _ hmem, hsize, hout, hblank 3 hsize hout, hwords,
    hcompile other hwords⟩

end Lexeme

end Screener
