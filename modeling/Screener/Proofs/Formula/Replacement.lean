import Screener.Proofs.Formula.Words

/-!
# Replacing a word of a text

`Text.replaceWord` puts another text in the place of a word, wherever the word stands between blank
characters; the blank characters stay as they are.  The words of the new text are those of the old
one, with the words of the replacement in the place of the word (`Lexeme.words_replaceWord`).  A word
that merely contains the replaced one, such as a lag of it, is another word and stays.
-/

namespace Screener

open Text

/-- The text with another text in the place of every occurrence of a word. -/
def Text.replaceWord (word : String) (replacement : List Char) (cs : List Char) : List Char :=
  match cs with
  | [] => []
  | c :: rest =>
    if isBlank c then c :: replaceWord word replacement rest
    else
      let found := c :: rest.takeWhile (!isBlank ·)
      (if String.ofList found = word then replacement else found) ++
        replaceWord word replacement (rest.dropWhile (!isBlank ·))
termination_by cs.length
decreasing_by
  · simp
  · have := (List.dropWhile_suffix (l := rest) (!isBlank ·)).length_le
    simp
    omega

/-! ## Texts and their words -/

namespace Spaced

theorem append {first second : List Char} {words words' : List String}
    (hfirst : Spaced first words) (hsecond : Spaced second words')
    (hend : ∀ c ∈ second.head?, isBlank c = true) : Spaced (first ++ second) (words ++ words') := by
  induction hfirst with
  | nil => exact hsecond
  | blank hblank _ ih => exact .blank hblank ih
  | @word text words word hword hsolid hafter _ ih =>
      rw [List.append_assoc]
      refine .word word hword hsolid ?_ ih
      intro c hc
      cases text with
      | nil => exact hend c hc
      | cons d text => exact hafter c hc

/-- Every text is the words that the scanner finds in it. -/
theorem scan (position : Nat) (cs : List Char) :
    Spaced cs ((Lexeme.scan position cs).map Lexeme.text) := by
  induction position, cs using Lexeme.scan.induct with
  | case1 position =>
      rw [Lexeme.scan_nil]
      exact .nil
  | case2 position c rest hblank ih =>
      rw [Lexeme.scan_blank hblank]
      exact .blank hblank ih
  | case3 position c rest hsolid word ih =>
      have hsplit : c :: rest = (String.ofList word).toList ++ rest.dropWhile (!isBlank ·) := by
        rw [String.toList_ofList]
        exact congrArg (c :: ·) (List.takeWhile_append_dropWhile).symm
      rw [Lexeme.scan_solid hsolid, hsplit]
      refine .word (String.ofList word) ?_ ?_ ?_ ih
      · rw [String.toList_ofList]
        exact List.cons_ne_nil _ _
      · intro d hd
        rw [String.toList_ofList] at hd
        rcases List.mem_cons.mp hd with rfl | hd
        · exact eq_false_of_ne_true hsolid
        · simpa using List.mem_takeWhile_imp hd
      · intro d hd
        have hstop := List.head?_dropWhile_not (!isBlank ·) rest
        rw [hd] at hstop
        simpa using hstop

end Spaced

/-! ## The words of a text with a word replaced -/

namespace Text

variable (word : String) (replacement : List Char)

theorem replaceWord_nil : replaceWord word replacement [] = [] := by
  rw [replaceWord.eq_def]

theorem replaceWord_blank {c : Char} (hblank : isBlank c = true) (cs : List Char) :
    replaceWord word replacement (c :: cs) = c :: replaceWord word replacement cs := by
  rw [replaceWord.eq_def]
  exact if_pos hblank

theorem replaceWord_word {found cs : List Char} (hfound : found ≠ [])
    (hsolid : ∀ c ∈ found, isBlank c = false) (hend : ∀ c ∈ cs.head?, isBlank c = true) :
    replaceWord word replacement (found ++ cs) =
      (if String.ofList found = word then replacement else found) ++
        replaceWord word replacement cs := by
  obtain ⟨c, rest, rfl⟩ := List.exists_cons_of_ne_nil hfound
  have hc : ¬ isBlank c = true := by simp [hsolid c (by simp)]
  have hrest : ∀ d ∈ rest, isBlank d = false := fun d hd => hsolid d (by simp [hd])
  have hsplit : replaceWord word replacement (c :: (rest ++ cs)) =
      (if String.ofList (c :: (rest ++ cs).takeWhile (!isBlank ·)) = word then replacement
        else c :: (rest ++ cs).takeWhile (!isBlank ·)) ++
        replaceWord word replacement ((rest ++ cs).dropWhile (!isBlank ·)) := by
    rw [replaceWord.eq_def]
    exact if_neg hc
  rw [List.cons_append, hsplit, Lexeme.takeWhile_solid hrest hend,
    Lexeme.dropWhile_solid hrest hend]

/-- A text that does not begin with a word does not do so after the replacement. -/
theorem head?_replaceWord {cs : List Char} (hhead : ∀ c ∈ cs.head?, isBlank c = true) :
    ∀ c ∈ (replaceWord word replacement cs).head?, isBlank c = true := by
  cases cs with
  | nil =>
      rw [replaceWord_nil]
      exact hhead
  | cons c rest =>
      rw [replaceWord_blank word replacement (hhead c rfl)]
      exact hhead

end Text

/-- The words of a text with one of them replaced. -/
theorem Spaced.replaceWord {cs replacement : List Char} {words words' : List String}
    (hspaced : Spaced cs words) (hreplacement : Spaced replacement words') (word : String) :
    Spaced (Text.replaceWord word replacement cs)
      (words.flatMap fun other => if other = word then words' else [other]) := by
  induction hspaced with
  | nil =>
      rw [replaceWord_nil]
      exact .nil
  | blank hblank _ ih =>
      rw [replaceWord_blank word replacement hblank]
      exact .blank hblank ih
  | word other hother hsolid hend _ ih =>
      have hend' := head?_replaceWord word replacement hend
      rw [replaceWord_word word replacement hother hsolid hend, String.ofList_toList,
        List.flatMap_cons]
      split
      · exact hreplacement.append ih hend'
      · exact .word other hother hsolid hend' ih

theorem Lexeme.words_replaceWord (word : String) (source : String) {replacement : List Char}
    {words' : List String} (hreplacement : Spaced replacement words') :
    words (String.ofList (Text.replaceWord word replacement source.toList)) =
      (words source).flatMap fun other => if other = word then words' else [other] := by
  have hspaced := (Spaced.scan 0 source.toList).replaceWord hreplacement word
  exact map_text_ofText (by rwa [String.toList_ofList])

end Screener
