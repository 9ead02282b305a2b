import Mathlib.Data.List.TakeWhile
import Screener.Formula.Lexeme

/-!
# The words of a text

A formula is written as words with blank characters between them.  `Spaced text words` says so
without the scanner: it builds the text from its end, one blank character or one word at a time,
and a word must be followed by a blank character or by nothing.  `Lexeme.map_text_ofText` is the
link to the scanner: the lexemes of such a text are its words, in order.
-/

namespace Screener

open Text

/-- The text is the words in order, with blank characters between them and perhaps around them. -/
inductive Spaced : List Char → List String → Prop
  | nil : Spaced [] []
  | blank {c : Char} {text : List Char} {words : List String} (hblank : isBlank c = true)
      (hrest : Spaced text words) : Spaced (c :: text) words
  | word {text : List Char} {words : List String} (word : String) (hword : word.toList ≠ [])
      (hsolid : ∀ c ∈ word.toList, isBlank c = false) (hend : ∀ c ∈ text.head?, isBlank c = true)
      (hrest : Spaced text words) : Spaced (word.toList ++ text) (word :: words)

namespace Spaced

/-- Words with a single blank character between each and the next. -/
theorem of_intercalate {words : List String}
    (hwords : ∀ word ∈ words, word.toList ≠ [] ∧ word.toList.any isBlank = false) :
    Spaced (" ".intercalate words).toList words := by
  induction words with
  | nil => exact .nil
  | cons word rest ih =>
      obtain ⟨hword, hnone⟩ := hwords word List.mem_cons_self
      have hsolid : ∀ c ∈ word.toList, isBlank c = false := by
        intro c hc
        exact eq_false_of_ne_true (List.any_eq_false.mp hnone c hc)
      have hrest := ih fun other hother => hwords other (List.mem_cons_of_mem _ hother)
      cases rest with
      | nil =>
          have h := Spaced.word word hword hsolid (by simp) .nil
          rw [List.append_nil] at h
          exact h
      | cons next rest =>
          rw [String.intercalate_cons_cons, String.toList_append, String.toList_append,
            List.append_assoc]
          show Spaced (word.toList ++ ' ' :: (" ".intercalate (next :: rest)).toList) _
          refine .word word hword hsolid ?_ (.blank (by decide) hrest)
          intro c hc
          obtain rfl : ' ' = c := Option.some.inj hc
          decide

end Spaced

namespace Lexeme

/-- The words of a text, without the places where they stand. -/
def words (text : String) : List String := (ofText text).map Lexeme.text

/-! ## The scanner takes a word as a whole -/

theorem takeWhile_solid {word text : List Char} (hsolid : ∀ c ∈ word, isBlank c = false)
    (hend : ∀ c ∈ text.head?, isBlank c = true) :
    (word ++ text).takeWhile (!isBlank ·) = word := by
  have hword : ∀ c ∈ word, (!isBlank c) = true := by
    intro c hc
    simp [hsolid c hc]
  rw [List.takeWhile_append_of_pos hword]
  cases text with
  | nil => simp
  | cons c rest => simp [hend c (by simp)]

theorem dropWhile_solid {word text : List Char} (hsolid : ∀ c ∈ word, isBlank c = false)
    (hend : ∀ c ∈ text.head?, isBlank c = true) :
    (word ++ text).dropWhile (!isBlank ·) = text := by
  have hword : ∀ c ∈ word, (!isBlank c) = true := by
    intro c hc
    simp [hsolid c hc]
  rw [List.dropWhile_append_of_pos hword]
  cases text with
  | nil => simp
  | cons c rest => simp [hend c (by simp)]

-- `eq_def` comes with the definition, while its equations for single cases are slow to work out
theorem scan_nil (position : Nat) : scan position [] = [] := by
  rw [scan.eq_def]

theorem scan_blank {c : Char} (hblank : isBlank c = true) (position : Nat) (text : List Char) :
    scan position (c :: text) = scan (position + c.utf8Size) text := by
  rw [scan.eq_def]
  exact if_pos hblank

theorem scan_solid {c : Char} (hsolid : ¬ isBlank c = true) (position : Nat) (rest : List Char) :
    scan position (c :: rest) =
      ⟨String.ofList (c :: rest.takeWhile (!isBlank ·)), position⟩ ::
        scan (position + byteLength (c :: rest.takeWhile (!isBlank ·)))
          (rest.dropWhile (!isBlank ·)) := by
  rw [scan.eq_def]
  exact if_neg hsolid

theorem scan_word {word text : List Char} (hword : word ≠ [])
    (hsolid : ∀ c ∈ word, isBlank c = false) (hend : ∀ c ∈ text.head?, isBlank c = true)
    (position : Nat) :
    scan position (word ++ text) =
      ⟨String.ofList word, position⟩ :: scan (position + byteLength word) text := by
  obtain ⟨c, rest, rfl⟩ := List.exists_cons_of_ne_nil hword
  have hc : ¬ isBlank c = true := by simp [hsolid c (by simp)]
  have hrest : ∀ d ∈ rest, isBlank d = false := fun d hd => hsolid d (by simp [hd])
  rw [List.cons_append, scan_solid hc, takeWhile_solid hrest hend, dropWhile_solid hrest hend]

/-! ## The lexemes of a text are its words -/

theorem map_text_scan {text : List Char} {words : List String} (hspaced : Spaced text words)
    (position : Nat) : (scan position text).map Lexeme.text = words := by
  induction hspaced generalizing position with
  | nil => rw [scan_nil, List.map_nil]
  | blank hblank _ ih => rw [scan_blank hblank, ih]
  | word word hword hsolid hend _ ih =>
      rw [scan_word hword hsolid hend, List.map_cons, ih, String.ofList_toList]

theorem map_text_ofText {source : String} {words : List String}
    (hspaced : Spaced source.toList words) : (ofText source).map Lexeme.text = words :=
  map_text_scan hspaced 0

end Lexeme

end Screener
