/-!
# Blank characters

The characters that separate words and pad fields: the code points with the Unicode property
`White_Space`.  `trim` removes them from both ends of a text.
-/

namespace Screener.Text

/-- Holds for the code points with the Unicode property `White_Space`. -/
def isBlank (c : Char) : Bool :=
  let n := c.toNat
  (9 ≤ n && n ≤ 13) || n = 32 || n = 0x85 || n = 0xA0 || n = 0x1680 ||
    (0x2000 ≤ n && n ≤ 0x200A) || n = 0x2028 || n = 0x2029 || n = 0x202F || n = 0x205F ||
    n = 0x3000

/-- Whatever core calls white space is blank; the converse fails, for instance at U+3000. -/
theorem isBlank_of_isWhitespace {c : Char} (h : c.isWhitespace = true) : isBlank c = true := by
  simp only [Char.isWhitespace, Bool.or_eq_true, decide_eq_true_eq] at h
  rcases h with ((h | h) | h) | h <;> subst h <;> decide

theorem not_isDigit_of_isBlank {c : Char} (hblank : isBlank c = true) : c.isDigit ≠ true := by
  intro hdigit
  simp only [isBlank, Bool.or_eq_true, Bool.and_eq_true, decide_eq_true_eq] at hblank
  simp only [Char.isDigit, Bool.and_eq_true, decide_eq_true_eq] at hdigit
  have hlow : 48 ≤ c.toNat := hdigit.1
  have hhigh : c.toNat ≤ 57 := hdigit.2
  omega

/-- The text without the blank characters it starts with. -/
def trimLeft (cs : List Char) : List Char := cs.dropWhile isBlank

/-- The text without the blank characters it ends with. -/
def trimRight (cs : List Char) : List Char := (cs.reverse.dropWhile isBlank).reverse

/-- The text without the blank characters at its two ends. -/
def trim (cs : List Char) : List Char := trimRight (trimLeft cs)

/-- `trim` on strings. -/
def trimmed (s : String) : String := String.ofList (trim s.toList)

@[simp] theorem trim_nil : trim [] = [] := rfl

theorem trim_eq_nil_iff {cs : List Char} : trim cs = [] ↔ ∀ c ∈ cs, isBlank c = true := by
  induction cs with
  | nil => simp
  | cons c rest ih =>
    by_cases hblank : isBlank c = true
    · have htrim : trim (c :: rest) = trim rest := by simp [trim, trimLeft, hblank]
      rw [htrim, ih, List.forall_mem_cons]
      exact ⟨fun hrest => ⟨hblank, hrest⟩, And.right⟩
    · have hleft : trimLeft (c :: rest) = c :: rest := by simp [trimLeft, hblank]
      have hright : (rest.reverse ++ [c]).dropWhile isBlank ≠ [] := by
        rw [List.dropWhile_append]
        split <;> simp [hblank]
      simp [trim, hleft, trimRight, hblank, hright]

end Screener.Text
