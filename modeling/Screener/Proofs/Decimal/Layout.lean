import Screener.Decimal.Layout
import Screener.Proofs.Decimal.Reader
import Mathlib.Data.List.TakeWhile

/-!
# Digits with a point

What `Decimal.plain` writes for a finite number are digits with at most one point among them, after a
sign if the number is negative (`Decimal.exists_chars`).  They are read back as the double nearest to
the decimal that was written (`Decimal.readFloat?_chars`).
-/

namespace Screener.Decimal

/-! ## Digits -/

theorem toLower_of_isDigit {c : Char} (hdigit : c.isDigit = true) : c.toLower = c := by
  simp only [Char.isDigit, Bool.and_eq_true, decide_eq_true_eq] at hdigit
  have hdigit : c.toNat ≤ 57 := hdigit.2
  unfold Char.toLower
  rw [dif_neg]
  rintro ⟨hletter, -⟩
  have hletter : 65 ≤ c.toNat := hletter
  omega

theorem isDigit_of_mem_digits {n : Nat} {c : Char} (hc : c ∈ digits n) : c.isDigit = true :=
  Nat.isDigit_of_mem_toDigits (by decide) (by decide) hc

/-- Zeros in front of a number are read as nothing. -/
theorem readNat?_zeros_append (zeros value : Nat) :
    readNat? (List.replicate zeros '0' ++ digits value) = some value := by
  rw [readNat?_eq_some_iff]
  refine ⟨?_, fun c hc => ?_, ?_⟩
  · exact List.append_ne_nil_of_right_ne_nil _ Nat.toDigits_ne_nil
  · rcases List.mem_append.mp hc with hc | hc
    · rw [List.eq_of_mem_replicate hc]
      rfl
    · exact isDigit_of_mem_digits hc
  · induction zeros with
    | zero => exact Nat.ofDigitChars_ten_toDigits
    | succ zeros ih =>
        rw [List.replicate_succ, List.cons_append, Nat.ofDigitChars_cons]
        exact ih

/-! ## The point -/

/-- Digits with a point between them, unless none stand after it. -/
def pointed (whole rest : List Char) : List Char :=
  whole ++ if rest = [] then [] else '.' :: rest

/-- The digits of a coefficient with zeros before them, cut so that `fraction` are left. -/
structure Cuts (coefficient fraction : Nat) (whole rest : List Char) : Prop where
  given : whole ≠ []
  solid : ∀ c ∈ whole ++ rest, c.isDigit = true
  length : rest.length = fraction
  read : readNat? (whole ++ rest) = some coefficient

theorem exists_withPoint (coefficient fraction : Nat) : ∃ whole rest,
    withPoint coefficient fraction = pointed whole rest ∧
      Cuts coefficient fraction whole rest := by
  have hread := readNat?_zeros_append (fraction + 1 - (digits coefficient).length) coefficient
  unfold withPoint
  dsimp only
  generalize hds : List.replicate (fraction + 1 - (digits coefficient).length) '0' ++
    digits coefficient = ds at hread ⊢
  have hlength : fraction < ds.length := by
    rw [← hds, List.length_append, List.length_replicate]
    omega
  obtain ⟨-, hsolid, -⟩ := readNat?_eq_some_iff.mp hread
  have hsplit := List.take_append_drop (ds.length - fraction) ds
  have hrest : (ds.drop (ds.length - fraction)).length = fraction := by
    rw [List.length_drop]
    omega
  refine ⟨ds.take (ds.length - fraction), ds.drop (ds.length - fraction), ?_, ?_, ?_, hrest, ?_⟩
  · rw [pointed]
    by_cases hzero : fraction = 0
    · simp [hzero]
    · rw [if_neg hzero, if_neg (by rw [← List.length_eq_zero_iff, hrest]; exact hzero)]
  · rw [ne_eq, ← List.length_eq_zero_iff, List.length_take]
    omega
  · rwa [hsplit]
  · rwa [hsplit]

variable {coefficient fraction : Nat} {whole rest : List Char}

/-- Digits with a point are read as the double nearest to what they stand for. -/
theorem readUnsigned?_pointed (hcuts : Cuts coefficient fraction whole rest) :
    readUnsigned? (pointed whole rest) = some (nearest coefficient (-fraction)) := by
  have hwhole : ∀ c ∈ whole, c.isDigit = true := fun c hc =>
    hcuts.solid c (List.mem_append_left _ hc)
  have hrest : ∀ c ∈ rest, c.isDigit = true := fun c hc =>
    hcuts.solid c (List.mem_append_right _ hc)
  have htake : whole.takeWhile Char.isDigit = whole := List.takeWhile_eq_self_iff.mpr hwhole
  have hdrop : whole.dropWhile Char.isDigit = [] := List.dropWhile_eq_nil_iff.mpr hwhole
  rw [pointed]
  split
  case isTrue hnone =>
    subst hnone
    have hzero : fraction = 0 := hcuts.length.symm
    have hread : readNat? whole = some coefficient := by simpa using hcuts.read
    simp [readUnsigned?, htake, hdrop, hread, readPower?, hzero]
  case isFalse =>
    have htake' : rest.takeWhile Char.isDigit = rest := List.takeWhile_eq_self_iff.mpr hrest
    have hdrop' : rest.dropWhile Char.isDigit = [] := List.dropWhile_eq_nil_iff.mpr hrest
    simp [readUnsigned?, List.takeWhile_append_of_pos hwhole, List.dropWhile_append_of_pos hwhole,
      htake', hdrop', hcuts.read, hcuts.length, readPower?]

theorem exists_pointed_cons (hcuts : Cuts coefficient fraction whole rest) :
    ∃ c cs, pointed whole rest = c :: cs ∧ c.isDigit = true := by
  obtain ⟨c, cs, rfl⟩ := List.exists_cons_of_ne_nil hcuts.given
  exact ⟨c, _, rfl, hcuts.solid c List.mem_cons_self⟩

theorem splitSign_sign_append (negative : Bool) (hcuts : Cuts coefficient fraction whole rest) :
    splitSign (sign negative ++ pointed whole rest) = (negative, pointed whole rest) := by
  cases negative with
  | true => rfl
  | false =>
      obtain ⟨c, cs, hcs, hdigit⟩ := exists_pointed_cons hcuts
      rw [hcs]
      refine splitSign_cons ?_ ?_ cs
      · rintro rfl
        cases hdigit
      · rintro rfl
        cases hdigit

/-- Words begin with a letter. -/
theorem map_toLower_ne (c : Char) (cs : List Char) (hcuts : Cuts coefficient fraction whole rest)
    (hletter : c.isDigit = false) : (pointed whole rest).map Char.toLower ≠ c :: cs := by
  obtain ⟨d, ds, hds, hdigit⟩ := exists_pointed_cons hcuts
  rw [hds, List.map_cons, toLower_of_isDigit hdigit]
  intro heq
  rw [(List.cons.inj heq).1, hletter] at hdigit
  cases hdigit

theorem readFloat?_sign_append (negative : Bool) (hcuts : Cuts coefficient fraction whole rest) :
    readFloat? (sign negative ++ pointed whole rest) =
      some (if negative then -nearest coefficient (-fraction)
        else nearest coefficient (-fraction)) := by
  have hnan : (pointed whole rest).map Char.toLower ≠ "nan".toList :=
    map_toLower_ne 'n' _ hcuts rfl
  have hinf : (pointed whole rest).map Char.toLower ≠ "inf".toList :=
    map_toLower_ne 'i' _ hcuts rfl
  have hinfinity : (pointed whole rest).map Char.toLower ≠ "infinity".toList :=
    map_toLower_ne 'i' _ hcuts rfl
  rw [readFloat?, splitSign_sign_append negative hcuts]
  simp only [if_neg hnan, if_neg hinf, if_neg hinfinity, readUnsigned?_pointed hcuts]
  rfl

/-! ## Numbers in formulas -/

/-- The double nearest to a decimal. -/
def Scaled.nearest (s : Scaled) : Float :=
  Decimal.nearest (s.coefficient * powerOfTen (s.exponent + (-s.exponent).toNat).toNat)
    (-(-s.exponent).toNat)

theorem exists_chars {x : Float} {b : Binary} (hx : Parts.ofFloat x = .finite b) :
    ∃ coefficient fraction whole rest, Cuts coefficient fraction whole rest ∧
      plain.chars x = sign b.negative ++ pointed whole rest ∧
      (shortest .up b).nearest = nearest coefficient (-fraction) := by
  obtain ⟨whole, rest, hpoint, hcuts⟩ := exists_withPoint
    ((shortest .up b).coefficient *
      powerOfTen ((shortest .up b).exponent + (-(shortest .up b).exponent).toNat).toNat)
    (-(shortest .up b).exponent).toNat
  refine ⟨_, _, whole, rest, hcuts, ?_, rfl⟩
  have hfraction : max (-(shortest .up b).exponent).toNat plain.places =
      (-(shortest .up b).exponent).toNat := Nat.max_zero _
  rw [Layout.chars, hx]
  show sign b.negative ++ (shortest .up b).inPlace plain.places = _
  rw [Scaled.inPlace, hfraction, hpoint]

/-- What is written for a finite number is read as the double nearest to it. -/
theorem readFloat?_chars {x : Float} {b : Binary} (hx : Parts.ofFloat x = .finite b) :
    readFloat? (plain.chars x) =
      some (if b.negative then -(shortest .up b).nearest else (shortest .up b).nearest) := by
  obtain ⟨coefficient, fraction, whole, rest, hcuts, hchars, hnearest⟩ := exists_chars hx
  rw [hchars, readFloat?_sign_append b.negative hcuts, hnearest]

theorem isDigit_or_of_mem_pointed {coefficient fraction : Nat} {whole rest : List Char}
    (hcuts : Cuts coefficient fraction whole rest) {c : Char} (hc : c ∈ pointed whole rest) :
    c.isDigit = true ∨ c = '.' := by
  rcases List.mem_append.mp hc with hwhole | hrest
  · exact .inl (hcuts.solid c (List.mem_append_left _ hwhole))
  · split at hrest
    · cases hrest
    · rcases List.mem_cons.mp hrest with rfl | hrest
      · exact .inr rfl
      · exact .inl (hcuts.solid c (List.mem_append_right _ hrest))

theorem count_pointed_le_one {coefficient fraction : Nat} {whole rest : List Char}
    (hcuts : Cuts coefficient fraction whole rest) : (pointed whole rest).count '.' ≤ 1 := by
  have hsolid : ∀ cs : List Char, (∀ c ∈ cs, c.isDigit = true) → cs.count '.' = 0 := by
    intro cs hcs
    refine List.count_eq_zero.mpr fun hpoint => ?_
    cases hcs '.' hpoint
  have hwhole := hsolid whole fun c hc => hcuts.solid c (List.mem_append_left _ hc)
  have hrest := hsolid rest fun c hc => hcuts.solid c (List.mem_append_right _ hc)
  rw [pointed, List.count_append, hwhole]
  split
  · decide
  · rw [List.count_cons_self, hrest]

/-- What is written for a finite number are digits, a point and a sign. -/
theorem isDigit_or_of_mem_chars {x : Float} {b : Binary} (hx : Parts.ofFloat x = .finite b)
    {c : Char} (hc : c ∈ plain.chars x) : c.isDigit = true ∨ c = '.' ∨ c = '-' := by
  obtain ⟨coefficient, fraction, whole, rest, hcuts, hchars, -⟩ := exists_chars hx
  rw [hchars] at hc
  rcases List.mem_append.mp hc with hsign | hpointed
  · unfold sign at hsign
    split at hsign
    · exact .inr (.inr (List.mem_singleton.mp hsign))
    · cases hsign
  · rcases isDigit_or_of_mem_pointed hcuts hpointed with hdigit | hpoint
    · exact .inl hdigit
    · exact .inr (.inl hpoint)

theorem chars_ne_nil {x : Float} {b : Binary} (hx : Parts.ofFloat x = .finite b) :
    plain.chars x ≠ [] := by
  obtain ⟨coefficient, fraction, whole, rest, hcuts, hchars, -⟩ := exists_chars hx
  obtain ⟨c, cs, hcs, -⟩ := exists_pointed_cons hcuts
  rw [hchars, hcs]
  exact List.append_ne_nil_of_right_ne_nil _ (List.cons_ne_nil c cs)

end Screener.Decimal
