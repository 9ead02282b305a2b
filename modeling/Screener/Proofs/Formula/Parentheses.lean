import Mathlib.Data.List.Basic
import Screener.Formula.Lexeme

/-!
# Open and closed parentheses

Every parenthesis is a lexeme of its own, so counting words tells which of them are closed.  Lexemes
close none of the parentheses before them if nowhere among them more have been closed than opened
(`ClosesNone`); an opening parenthesis is never closed if this holds of all that follows it.

Cut lexemes at the parentheses that are never closed.  If no closing parenthesis is too many, what
stands between the cuts is balanced (`LeavesOpen`).  Hence the last parenthesis that is never closed
is the one at the last cut (`LeavesOpen.exists_last`), and without a cut every parenthesis is closed
(`Balanced.not_closesNone`).
-/

namespace Screener

namespace Lexeme

/-- The number of opening parentheses. -/
def openings (lexemes : List Lexeme) : Nat := lexemes.countP (·.text = "(")

/-- The number of closing parentheses. -/
def closings (lexemes : List Lexeme) : Nat := lexemes.countP (·.text = ")")

/-- Whether no parenthesis among the lexemes closes one that was opened before them. -/
def ClosesNone (lexemes : List Lexeme) : Prop :=
  ∀ part, part <+: lexemes → closings part ≤ openings part

/-- Whether the lexemes close the parentheses that they open, and no other. -/
structure Balanced (lexemes : List Lexeme) : Prop where
  closesNone : ClosesNone lexemes
  equal : closings lexemes = openings lexemes

/-! ## Counting -/

@[simp] theorem openings_nil : openings [] = 0 := rfl

@[simp] theorem closings_nil : closings [] = 0 := rfl

@[simp] theorem openings_append (first second : List Lexeme) :
    openings (first ++ second) = openings first + openings second := List.countP_append

@[simp] theorem closings_append (first second : List Lexeme) :
    closings (first ++ second) = closings first + closings second := List.countP_append

theorem openings_cons (lexeme : Lexeme) (rest : List Lexeme) :
    openings (lexeme :: rest) = openings rest + if lexeme.text = "(" then 1 else 0 := by
  simp [openings, List.countP_cons]

theorem closings_cons (lexeme : Lexeme) (rest : List Lexeme) :
    closings (lexeme :: rest) = closings rest + if lexeme.text = ")" then 1 else 0 := by
  simp [closings, List.countP_cons]

/-! ## Balanced lexemes -/

theorem balanced_nil : Balanced [] where
  closesNone := by
    intro part hpart
    rw [List.prefix_nil.mp hpart]
    exact Nat.le_refl _
  equal := rfl

/-- What balanced lexemes leave open is what was open before them. -/
theorem Balanced.closesNone_append {first second : List Lexeme} (hfirst : Balanced first)
    (hsecond : ClosesNone second) : ClosesNone (first ++ second) := by
  intro part hpart
  rcases List.prefix_or_prefix_of_prefix hpart (List.prefix_append first second) with
    hinside | ⟨beyond, rfl⟩
  · exact hfirst.closesNone part hinside
  · have hbeyond := hsecond beyond ((List.prefix_append_right_inj first).mp hpart)
    have hequal := hfirst.equal
    simp only [openings_append, closings_append]
    omega

theorem Balanced.append {first second : List Lexeme} (hfirst : Balanced first)
    (hsecond : Balanced second) : Balanced (first ++ second) where
  closesNone := hfirst.closesNone_append hsecond.closesNone
  equal := by rw [openings_append, closings_append, hfirst.equal, hsecond.equal]

theorem balanced_singleton {lexeme : Lexeme} (hopening : lexeme.text ≠ "(")
    (hclosing : lexeme.text ≠ ")") : Balanced [lexeme] where
  closesNone := by
    intro part hpart
    rcases List.prefix_cons_iff.mp hpart with rfl | ⟨tail, rfl, htail⟩
    · exact Nat.le_refl _
    · rw [List.prefix_nil.mp htail]
      simp [closings_cons, hclosing]
  equal := by simp [openings_cons, closings_cons, hopening, hclosing]

/-- A pair of parentheses around balanced lexemes. -/
theorem Balanced.group {opening closing : Lexeme} {inner : List Lexeme}
    (hopening : opening.text = "(") (hclosing : closing.text = ")") (hinner : Balanced inner) :
    Balanced (opening :: inner ++ [closing]) where
  closesNone := by
    intro part hpart
    rcases List.prefix_concat_iff.mp hpart with rfl | hinside
    · have hequal := hinner.equal
      simp [openings_cons, closings_cons, hopening, hclosing]
      omega
    · rcases List.prefix_cons_iff.mp hinside with rfl | ⟨tail, rfl, htail⟩
      · exact Nat.le_refl _
      · have hle := hinner.closesNone tail htail
        simp [openings_cons, closings_cons, hopening]
        omega
  equal := by
    have hequal := hinner.equal
    simp [openings_cons, closings_cons, hopening, hclosing]
    omega

/-- A parenthesis that balanced lexemes open is closed by those that follow it. -/
theorem Balanced.not_closesNone {before after : List Lexeme} {opening : Lexeme}
    (hbalanced : Balanced (before ++ opening :: after)) (hopening : opening.text = "(") :
    ¬ ClosesNone after := by
  intro hafter
  have hbefore := hbalanced.closesNone before (List.prefix_append _ _)
  have hle := hafter after List.prefix_rfl
  have hequal := hbalanced.equal
  simp only [openings_append, closings_append, openings_cons, closings_cons, hopening] at hequal
  simp at hequal
  omega

/-! ## Parentheses that are never closed -/

/-- What lexemes leave open: they are balanced apart from opening parentheses at the listed
positions, the last one first. -/
inductive LeavesOpen : List Lexeme → List Nat → Prop
  | balanced {lexemes : List Lexeme} (hbalanced : Balanced lexemes) : LeavesOpen lexemes []
  | opening {before after : List Lexeme} {positions : List Nat} {opening : Lexeme}
      (hbefore : LeavesOpen before positions) (hopening : opening.text = "(")
      (hafter : Balanced after) :
      LeavesOpen (before ++ opening :: after) (opening.position :: positions)

namespace LeavesOpen

variable {lexemes : List Lexeme} {positions : List Nat}

theorem openings_eq (hleaves : LeavesOpen lexemes positions) :
    openings lexemes = closings lexemes + positions.length := by
  induction hleaves with
  | balanced hbalanced => exact hbalanced.equal.symm
  | opening hbefore hopening hafter ih =>
      have hequal := hafter.equal
      simp only [openings_append, closings_append, openings_cons, closings_cons, hopening, ih,
        List.length_cons, hequal]
      simp
      omega

theorem append_balanced (hleaves : LeavesOpen lexemes positions) {rest : List Lexeme}
    (hrest : Balanced rest) : LeavesOpen (lexemes ++ rest) positions := by
  cases hleaves with
  | balanced hbalanced => exact .balanced (hbalanced.append hrest)
  | opening hbefore hopening hafter =>
      rw [List.append_assoc, List.cons_append]
      exact .opening hbefore hopening (hafter.append hrest)

theorem append_opening (hleaves : LeavesOpen lexemes positions) {opening : Lexeme}
    (hopening : opening.text = "(") :
    LeavesOpen (lexemes ++ [opening]) (opening.position :: positions) :=
  .opening hleaves hopening balanced_nil

/-- A closing parenthesis closes the last one that is open. -/
theorem append_closing {position : Nat} (hleaves : LeavesOpen lexemes (position :: positions))
    {closing : Lexeme} (hclosing : closing.text = ")") :
    LeavesOpen (lexemes ++ [closing]) positions := by
  cases hleaves with
  | opening hbefore hopening hafter =>
      rw [List.append_assoc]
      exact hbefore.append_balanced (hafter.group hopening hclosing)

/-- The parenthesis listed first is never closed, and all after it are. -/
theorem exists_last {position : Nat} (hleaves : LeavesOpen lexemes (position :: positions)) :
    ∃ before opening after, lexemes = before ++ opening :: after ∧ opening.text = "(" ∧
      opening.position = position ∧ Balanced after := by
  cases hleaves with
  | opening hbefore hopening hafter => exact ⟨_, _, _, rfl, hopening, rfl, hafter⟩

end LeavesOpen

end Lexeme

end Screener
