import Screener.Decimal.Reader
import Screener.Text.Blank

/-!
# Integers and their digits

What `Decimal.readInteger?` reads: the decimal text of an integer within the bounds is read back as
that integer (`readInteger?_toString`), and blank characters are read as nothing.
-/

namespace Screener.Decimal

/-! ## Digits -/

/-- One more digit of a number, if everything before it and the character itself are digits. -/
def readDigit (value : Option Nat) (c : Char) : Option Nat := do
  let value ← value
  if c.isDigit then some (10 * value + (c.toNat - '0'.toNat)) else none

theorem readNat?_eq (cs : List Char) :
    readNat? cs = if cs.isEmpty then none else cs.foldl readDigit (some 0) := rfl

theorem foldl_readDigit_none (cs : List Char) : cs.foldl readDigit none = none := by
  induction cs with
  | nil => rfl
  | cons c rest ih => exact ih

theorem foldl_readDigit (cs : List Char) (value : Nat) :
    cs.foldl readDigit (some value) =
      if cs.all Char.isDigit then some (Nat.ofDigitChars 10 cs value) else none := by
  induction cs generalizing value with
  | nil => rfl
  | cons c rest ih =>
      rw [List.foldl_cons, List.all_cons]
      by_cases hdigit : c.isDigit = true
      · have hstep : readDigit (some value) c = some (10 * value + (c.toNat - '0'.toNat)) := by
          simp [readDigit, hdigit]
        rw [hstep, ih, hdigit, Bool.true_and, Nat.ofDigitChars_cons]
      · have hstep : readDigit (some value) c = none := by simp [readDigit, hdigit]
        simp [hstep, foldl_readDigit_none, hdigit]

theorem readNat?_eq_some_iff {cs : List Char} {value : Nat} :
    readNat? cs = some value ↔
      cs ≠ [] ∧ (∀ c ∈ cs, c.isDigit = true) ∧ Nat.ofDigitChars 10 cs 0 = value := by
  rw [readNat?_eq, foldl_readDigit]
  cases cs with
  | nil => simp
  | cons c rest => simp only [List.isEmpty_cons]; simp

theorem readNat?_toDigits (value : Nat) : readNat? (Nat.toDigits 10 value) = some value := by
  rw [readNat?_eq_some_iff]
  refine ⟨Nat.toDigits_ne_nil, fun c hc => ?_, Nat.ofDigitChars_ten_toDigits⟩
  exact Nat.isDigit_of_mem_toDigits (by decide) (by decide) hc

/-! ## Signs -/

theorem splitSign_cons {c : Char} (hminus : c ≠ '-') (hplus : c ≠ '+') (rest : List Char) :
    splitSign (c :: rest) = (false, c :: rest) := by
  unfold splitSign
  split
  · next heq => exact absurd (List.cons.inj heq).1 hminus
  · next heq => exact absurd (List.cons.inj heq).1 hplus
  · rfl

theorem splitSign_toDigits (value : Nat) :
    splitSign (Nat.toDigits 10 value) = (false, Nat.toDigits 10 value) := by
  cases hdigits : Nat.toDigits 10 value with
  | nil => exact absurd hdigits Nat.toDigits_ne_nil
  | cons c rest =>
      have hmem : c ∈ Nat.toDigits 10 value := hdigits ▸ List.mem_cons_self
      have hdigit : c.isDigit = true :=
        Nat.isDigit_of_mem_toDigits (by decide) (by decide) hmem
      apply splitSign_cons
      · rintro rfl
        exact absurd hdigit (by decide)
      · rintro rfl
        exact absurd hdigit (by decide)

theorem mem_splitSign {c : Char} (hminus : c ≠ '-') (hplus : c ≠ '+') {cs : List Char}
    (hmem : c ∈ cs) : c ∈ (splitSign cs).2 := by
  unfold splitSign
  split
  · exact (List.mem_cons.mp hmem).resolve_left hminus
  · exact (List.mem_cons.mp hmem).resolve_left hplus
  · exact hmem

/-- Nothing but digits and signs is read as an integer. -/
theorem not_mem_of_readInteger?_eq_some {lowest highest value : Int} {cs : List Char}
    (hread : readInteger? lowest highest cs = some value) {c : Char} (hdigit : c.isDigit ≠ true)
    (hminus : c ≠ '-') (hplus : c ≠ '+') : c ∉ cs := by
  intro hmem
  obtain ⟨size, hsize, -⟩ := Option.bind_eq_some_iff.mp hread
  obtain ⟨-, hdigits, -⟩ := readNat?_eq_some_iff.mp hsize
  exact hdigit (hdigits c (mem_splitSign hminus hplus hmem))

theorem toList_toString_ofNat (value : Nat) :
    (toString (Int.ofNat value)).toList = Nat.toDigits 10 value :=
  Nat.toList_repr

theorem toList_toString_negSucc (value : Nat) :
    (toString (Int.negSucc value)).toList = '-' :: Nat.toDigits 10 (value + 1) := by
  show ("-" ++ Nat.repr (value + 1)).toList = _
  rw [String.toList_append, Nat.toList_repr]
  rfl

/-- An integer is written with digits and a sign. -/
theorem isDigit_or_of_mem_toString {value : Int} {c : Char}
    (hmem : c ∈ (toString value).toList) : c.isDigit = true ∨ c = '-' := by
  cases value with
  | ofNat size =>
      rw [toList_toString_ofNat] at hmem
      exact .inl (Nat.isDigit_of_mem_toDigits (by decide) (by decide) hmem)
  | negSucc size =>
      rw [toList_toString_negSucc] at hmem
      rcases List.mem_cons.mp hmem with rfl | hmem
      · exact .inr rfl
      · exact .inl (Nat.isDigit_of_mem_toDigits (by decide) (by decide) hmem)

/-- The text of an integer is read back. -/
theorem readInteger?_toString {lowest highest value : Int} (hlow : lowest ≤ value)
    (hhigh : value ≤ highest) :
    readInteger? lowest highest (toString value).toList = some value := by
  have hbounds : lowest ≤ value ∧ value ≤ highest := ⟨hlow, hhigh⟩
  cases value with
  | ofNat size =>
      rw [toList_toString_ofNat, readInteger?, splitSign_toDigits]
      simp only [readNat?_toDigits]
      exact if_pos hbounds
  | negSucc size =>
      rw [toList_toString_negSucc, readInteger?]
      simp only [splitSign, readNat?_toDigits]
      exact if_pos hbounds

/-! ## Blank texts -/

theorem readNat?_of_not_isDigit {c : Char} (hdigit : c.isDigit ≠ true) (rest : List Char) :
    readNat? (c :: rest) = none := by
  rw [Option.eq_none_iff_forall_ne_some]
  intro value hvalue
  obtain ⟨-, hdigits, -⟩ := readNat?_eq_some_iff.mp hvalue
  exact hdigit (hdigits c List.mem_cons_self)

theorem readInteger?_of_trim_eq_nil {lowest highest : Int} {cs : List Char}
    (hblank : Text.trim cs = []) : readInteger? lowest highest cs = none := by
  rw [Text.trim_eq_nil_iff] at hblank
  cases cs with
  | nil => rfl
  | cons c rest =>
      have hc : Text.isBlank c = true := hblank c List.mem_cons_self
      have hsign : splitSign (c :: rest) = (false, c :: rest) := by
        apply splitSign_cons
        · rintro rfl
          exact absurd hc (by decide)
        · rintro rfl
          exact absurd hc (by decide)
      rw [readInteger?, hsign]
      simp only [readNat?_of_not_isDigit (Text.not_isDigit_of_isBlank hc)]
      rfl

end Screener.Decimal
