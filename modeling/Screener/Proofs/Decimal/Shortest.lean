import Screener.Proofs.Decimal.Layout
import Screener.Proofs.Decimal.Scientific

/-!
# The shortest decimal reads back

Every decimal that the search for the shortest one accepts is covered by the double
(`Decimal.Interval.holds_iff`), and on one of the grids there is such a decimal
(`Decimal.covers_shortest`).  So what is written for a finite double is read as the same double, the sign
of a zero included (`Decimal.readFloat?_chars_self`).
-/

namespace Screener.Decimal

/-! ## Whole numbers for rationals -/

/-- What a binary and a decimal number are multiplied by to become whole. -/
def clearing (e x : Int) : ℚ := 2 ^ (-e).toNat * 10 ^ (-x).toNat

theorem clearing_pos (e x : Int) : 0 < clearing e x := by
  unfold clearing
  positivity

theorem zpow_mul_pow_neg {a : ℚ} (ha : a ≠ 0) (e : Int) : a ^ e * a ^ (-e).toNat = a ^ e.toNat := by
  rw [← zpow_natCast, ← zpow_natCast, ← zpow_add₀ ha]
  congr 1
  omega

theorem binary_cleared (u : Nat) (e x : Int) :
    ((u * powerOfTwo e.toNat * powerOfTen (-x).toNat : Nat) : ℚ) = u * 2 ^ e * clearing e x := by
  have hpower := zpow_mul_pow_neg (two_ne_zero (α := ℚ)) e
  show ((u * 2 ^ e.toNat * 10 ^ (-x).toNat : Nat) : ℚ) = _
  push_cast
  rw [clearing, ← hpower]
  ring

theorem decimal_cleared (c : Nat) (e x : Int) :
    ((c * (powerOfTwo (-e).toNat * powerOfTen x.toNat) : Nat) : ℚ) = c * 10 ^ x * clearing e x := by
  have hpower := zpow_mul_pow_neg (by norm_num : (10 : ℚ) ≠ 0) x
  show ((c * (2 ^ (-e).toNat * 10 ^ x.toNat) : Nat) : ℚ) = _
  push_cast
  rw [clearing, ← hpower]
  ring

variable {u c : Nat} {e x : Int}

theorem binary_le_decimal_iff :
    u * powerOfTwo e.toNat * powerOfTen (-x).toNat ≤
      c * (powerOfTwo (-e).toNat * powerOfTen x.toNat) ↔ (u : ℚ) * 2 ^ e ≤ c * 10 ^ x := by
  rw [← Nat.cast_le (α := ℚ), binary_cleared, decimal_cleared,
    mul_le_mul_iff_left₀ (clearing_pos e x)]

theorem decimal_le_binary_iff :
    c * (powerOfTwo (-e).toNat * powerOfTen x.toNat) ≤
      u * powerOfTwo e.toNat * powerOfTen (-x).toNat ↔ (c : ℚ) * 10 ^ x ≤ u * 2 ^ e := by
  rw [← Nat.cast_le (α := ℚ), binary_cleared, decimal_cleared,
    mul_le_mul_iff_left₀ (clearing_pos e x)]

/-! ## The interval of a double -/

variable {b : Binary}

/-- The interval holds the decimals that the double covers. -/
theorem Interval.holds_iff (hpos : 0 < b.significand) :
    (Interval.ofBinary b).holds (powerOfTen (-x).toNat)
      ((Interval.ofBinary b).denominator * powerOfTen x.toNat) c = true ↔
        b.Covers (c * 10 ^ x) := by
  have hquarter : (2 : ℚ) ^ b.exponent = 4 * 2 ^ (b.exponent - 2) := by
    rw [zpow_sub₀ two_ne_zero]
    norm_num
    ring
  have hlow : (b.significand - b.below) * (2 : ℚ) ^ b.exponent =
      (4 * b.significand - (if b.crowdedBelow then 1 else 2) : Nat) * 2 ^ (b.exponent - 2) := by
    rw [Nat.cast_sub (by split <;> omega), hquarter, Binary.below]
    split <;> push_cast <;> ring
  have hhigh : ((b.significand : ℚ) + 1 / 2) * 2 ^ b.exponent =
      (4 * b.significand + 2 : Nat) * 2 ^ (b.exponent - 2) := by
    rw [hquarter]
    push_cast
    ring
  unfold Binary.Covers Interval.holds Interval.ofBinary
  rw [hlow, hhigh]
  by_cases heven : b.significand % 2 = 0
  · simp only [heven, decide_true, if_true, Bool.and_eq_true, decide_eq_true_eq,
      binary_le_decimal_iff, decimal_le_binary_iff]
  · simp only [heven, decide_false, Bool.false_eq_true, if_false, Bool.and_eq_true,
      decide_eq_true_eq, ← not_le, binary_le_decimal_iff, decimal_le_binary_iff]

/-! ## The search -/

variable {i : Interval} {tie : Tie}

/-- What is found on a grid lies in the interval. -/
theorem Interval.holds_of_onGrid_eq_some (h : i.onGrid tie x = some c) :
    i.holds (powerOfTen (-x).toNat) (i.denominator * powerOfTen x.toNat) c = true := by
  unfold onGrid at h
  dsimp only at h
  split at h
  case h_1 hlower hupper =>
    cases h
    exact iteInduction (motive := fun c => i.holds _ _ c = true) (fun _ => hupper) (fun _ => hlower)
  case h_2 hlower _ =>
    cases h
    exact hlower
  case h_3 _ hupper =>
    cases h
    exact hupper
  case h_4 => cases h

/-- If the neighbour below the value lies in the interval, then something is found. -/
theorem Interval.isSome_onGrid (h : i.holds (powerOfTen (-x).toNat)
    (i.denominator * powerOfTen x.toNat)
    (i.value * powerOfTen (-x).toNat / (i.denominator * powerOfTen x.toNat)) = true) :
    (i.onGrid tie x).isSome = true := by
  unfold onGrid
  dsimp only
  rw [h]
  split
  · rfl
  · rfl
  · contradiction
  · contradiction

theorem Interval.onGrid_of_search_eq_some {steps : Nat} {top : Int} {s : Scaled}
    (h : i.search tie steps top = some s) : i.onGrid tie s.exponent = some s.coefficient := by
  induction steps generalizing top with
  | zero => cases h
  | succ steps ih =>
      unfold search at h
      split at h
      case h_1 coefficient hgrid =>
        cases h
        exact hgrid
      case h_2 => exact ih h

theorem Interval.isSome_search {steps : Nat} (finer : Nat) {top : Int} (hfiner : finer < steps)
    (h : (i.onGrid tie (top - finer)).isSome = true) : (i.search tie steps top).isSome = true := by
  induction steps generalizing top finer with
  | zero => omega
  | succ steps ih =>
      unfold search
      split
      case h_1 => rfl
      case h_2 hnone =>
        cases finer with
        | zero =>
            rw [Nat.cast_zero, sub_zero, hnone] at h
            cases h
        | succ finer =>
            refine ih finer (Nat.lt_of_succ_lt_succ hfiner) ?_
            rw [← h]
            congr 2
            push_cast
            ring

/-! ## Fine grids -/

/-- Three binary digits are fewer than a decimal one, by less than four tenths. -/
theorem ten_zpow_le {p n : Int} (hup : 10 * p ≤ 3 * n) (hdown : 33 * p ≤ 10 * n) :
    (10 : ℚ) ^ p ≤ 2 ^ n := by
  rcases le_total 0 p with hp | hp
  · -- upwards, from 10 ^ 3 < 2 ^ 10
    refine le_of_pow_le_pow_left₀ (by decide : 3 ≠ 0) (by positivity) ?_
    calc ((10 : ℚ) ^ p) ^ 3 = (10 ^ 3) ^ p := by rw [← zpow_natCast, ← zpow_natCast, zpow_comm]
      _ ≤ (2 ^ 10) ^ p := zpow_le_zpow_left₀ hp (by norm_num) (by norm_num)
      _ = 2 ^ (10 * p) := by rw [← zpow_natCast, ← zpow_mul]; rfl
      _ ≤ 2 ^ (3 * n) := zpow_le_zpow_right₀ one_le_two hup
      _ = (2 ^ n) ^ 3 := by rw [← zpow_natCast, ← zpow_mul, mul_comm]; rfl
  · -- downwards, from 2 ^ 33 < 10 ^ 10
    refine le_of_pow_le_pow_left₀ (by decide : 10 ≠ 0) (by positivity) ?_
    have hbase : (10 ^ 10 : ℚ) ^ p ≤ (2 ^ 33) ^ p := by
      rw [← neg_neg p, zpow_neg _ (-p), zpow_neg _ (-p)]
      exact inv_anti₀ (by positivity)
        (zpow_le_zpow_left₀ (neg_nonneg.mpr hp) (by positivity) (by norm_num))
    calc ((10 : ℚ) ^ p) ^ 10 = (10 ^ 10) ^ p := by
          rw [← zpow_natCast, ← zpow_natCast, zpow_comm]
      _ ≤ (2 ^ 33) ^ p := hbase
      _ = 2 ^ (33 * p) := by rw [← zpow_natCast, ← zpow_mul]; rfl
      _ ≤ 2 ^ (10 * n) := zpow_le_zpow_right₀ one_le_two hdown
      _ = (2 ^ n) ^ 10 := by rw [← zpow_natCast, ← zpow_mul, mul_comm]; rfl

theorem log2_mul_two_pow {m : Nat} (hm : 0 < m) (n : Nat) : (m * 2 ^ n).log2 = m.log2 + n := by
  rw [Nat.log2_eq_iff (Nat.mul_pos hm (Nat.two_pow_pos n)).ne', pow_add, Nat.add_right_comm, pow_add]
  exact ⟨Nat.mul_le_mul_right _ (Nat.log2_self_le hm.ne'),
    Nat.mul_lt_mul_of_pos_right Nat.lt_log2_self (Nat.two_pow_pos n)⟩

theorem Interval.topExponent_ofBinary (hpos : 0 < b.significand) :
    (Interval.ofBinary b).topExponent = (b.significand.log2 + b.exponent) * 30103 / 100000 + 2 := by
  have hvalue : (4 * b.significand * 2 ^ (b.exponent - 2).toNat).log2 =
      b.significand.log2 + 2 + (b.exponent - 2).toNat := by
    rw [show 4 * b.significand * 2 ^ (b.exponent - 2).toNat =
      b.significand * 2 ^ (2 + (b.exponent - 2).toNat) by ring, log2_mul_two_pow hpos]
    omega
  have hdenominator : (2 ^ (-(b.exponent - 2)).toNat).log2 = (-(b.exponent - 2)).toNat :=
    Nat.log2_two_pow
  show (((4 * b.significand * 2 ^ (b.exponent - 2).toNat).log2 : Int) -
    (2 ^ (-(b.exponent - 2)).toNat).log2) * 30103 / 100000 + 2 = _
  rw [hvalue, hdenominator]
  congr 3
  omega

/-- On a grid that is finer than the ends of the interval are apart from the value, the neighbour below
the value is covered. -/
theorem covers_of_fine (hx : (10 : ℚ) ^ x ≤ 2 ^ (b.exponent - 2)) : b.Covers
    (((Interval.ofBinary b).value * powerOfTen (-x).toNat /
      ((Interval.ofBinary b).denominator * powerOfTen x.toNat) : Nat) * 10 ^ x) := by
  have hquarter : (2 : ℚ) ^ (b.exponent - 2) = 2 ^ b.exponent / 4 := by
    rw [zpow_sub₀ two_ne_zero]
    norm_num
  have hunit : (0 : ℚ) < 2 ^ b.exponent := by positivity
  have hvalue : ((4 * b.significand : Nat) : ℚ) * 2 ^ (b.exponent - 2) =
      b.significand * 2 ^ b.exponent := by
    rw [hquarter]
    push_cast
    ring
  have hbelow : (1 / 4 : ℚ) ≤ b.below := by
    unfold Binary.below
    split <;> norm_num
  have hunits : 0 < powerOfTwo (-(b.exponent - 2)).toNat * powerOfTen x.toNat :=
    Nat.mul_pos (Nat.pow_pos (by decide)) (Nat.pow_pos (by decide))
  have hfloor := Nat.div_mul_le_self (4 * b.significand * powerOfTwo (b.exponent - 2).toNat *
    powerOfTen (-x).toNat) (powerOfTwo (-(b.exponent - 2)).toNat * powerOfTen x.toNat)
  have hceil := Nat.lt_mul_div_succ (4 * b.significand * powerOfTwo (b.exponent - 2).toNat *
    powerOfTen (-x).toNat) hunits
  show b.Covers ((4 * b.significand * powerOfTwo (b.exponent - 2).toNat * powerOfTen (-x).toNat /
    (powerOfTwo (-(b.exponent - 2)).toNat * powerOfTen x.toNat) : Nat) * 10 ^ x)
  generalize 4 * b.significand * powerOfTwo (b.exponent - 2).toNat * powerOfTen (-x).toNat /
    (powerOfTwo (-(b.exponent - 2)).toNat * powerOfTen x.toNat) = floor at hfloor hceil
  rw [Nat.mul_comm _ (floor + 1)] at hceil
  -- the neighbour is at most the value, and less than one unit of the grid away from it
  have hle : (floor : ℚ) * 10 ^ x ≤ b.significand * 2 ^ b.exponent := by
    rw [← hvalue]
    exact decimal_le_binary_iff.mp hfloor
  have hlt : (b.significand : ℚ) * 2 ^ b.exponent < (floor + 1) * 10 ^ x := by
    rw [← hvalue, ← Nat.cast_one, ← Nat.cast_add, ← not_le]
    exact mt decimal_le_binary_iff.mpr (not_le.mpr hceil)
  have hlow : (b.significand - b.below) * 2 ^ b.exponent < floor * (10 : ℚ) ^ x := by
    nlinarith
  have hhigh : (floor : ℚ) * 10 ^ x < (b.significand + 1 / 2) * 2 ^ b.exponent := by
    nlinarith
  unfold Binary.Covers
  split
  · exact ⟨hlow.le, hhigh.le⟩
  · exact ⟨hlow, hhigh⟩

/-- The search ends with a decimal. -/
theorem isSome_search_ofBinary (hb : b.IsCanonical) (hpos : 0 < b.significand) (tie : Tie) :
    ((Interval.ofBinary b).search tie 24 (Interval.ofBinary b).topExponent).isSome = true := by
  -- the last of the 24 grids is fine enough for every double
  refine Interval.isSome_search 23 (by decide) (Interval.isSome_onGrid ?_)
  have hlog : b.significand.log2 < 53 := (Nat.log2_lt hpos.ne').mpr hb.fits
  obtain ⟨hlow, hhigh⟩ : -1074 ≤ b.exponent ∧ b.exponent ≤ 971 := ⟨hb.low, hb.high⟩
  refine (Interval.holds_iff hpos).mpr (covers_of_fine ?_)
  rw [Interval.topExponent_ofBinary hpos]
  refine ten_zpow_le ?_ ?_ <;> push_cast <;> omega

/-- **The shortest decimal.**  It is covered by the double. -/
theorem covers_shortest (hb : b.IsCanonical) (hpos : 0 < b.significand) (tie : Tie) :
    b.Covers ((shortest tie b).coefficient * 10 ^ (shortest tie b).exponent) := by
  obtain ⟨s, hs⟩ := Option.isSome_iff_exists.mp (isSome_search_ofBinary hb hpos tie)
  have hshortest : shortest tie b = s := by
    rw [shortest, if_neg hpos.ne']
    dsimp only
    rw [hs, Option.getD_some]
  rw [hshortest]
  exact (Interval.holds_iff hpos).mp
    (Interval.holds_of_onGrid_eq_some (Interval.onGrid_of_search_eq_some hs))

/-! ## Reading what is written -/

/-- The decimal of a number with the point in place is the same decimal. -/
theorem Scaled.cleared (s : Scaled) :
    ((s.coefficient * powerOfTen (s.exponent + (-s.exponent).toNat).toNat : Nat) : ℚ) *
      10 ^ (-(-s.exponent).toNat : Int) = s.coefficient * 10 ^ s.exponent := by
  show ((s.coefficient * 10 ^ (s.exponent + (-s.exponent).toNat).toNat : Nat) : ℚ) * _ = _
  push_cast
  rw [mul_assoc, ← zpow_natCast, ← zpow_add₀ (by norm_num)]
  congr 2
  omega

/-- The shortest decimal is read as the double without its sign. -/
theorem ofFloat_nearest_shortest (hb : b.IsCanonical) (tie : Tie) :
    Parts.ofFloat (shortest tie b).nearest = .finite { b with negative := false } := by
  rcases Nat.eq_zero_or_pos b.significand with hzero | hpos
  · have hexponent : b.exponent = -1074 := hb.full.resolve_right (by omega)
    have hnearest : (shortest tie b).nearest = 0.0 := by
      rw [shortest, if_pos hzero]
      rfl
    rw [hnearest, hzero, hexponent, ofFloat_zero]
  · refine ofFloat_nearest (b := { b with negative := false })
      ⟨hb.fits, hb.low, hb.high, hb.full⟩ hpos rfl ?_
    rw [Scaled.cleared]
    exact covers_shortest hb hpos tie

/-- **Written numbers are read back.**  What is written for a finite number, in formulas and messages, is
read as the same double: a negative zero stays one. -/
theorem readFloat?_chars_self {x : Float} (hx : x.isFinite = true) :
    readFloat? (plain.chars x) = some x := by
  obtain ⟨b, hparts⟩ := exists_parts hx
  have hnearest := ofFloat_nearest_shortest (isCanonical_of_ofFloat hparts) .up
  rw [readFloat?_chars hparts, Option.some_inj]
  cases hnegative : b.negative with
  | false =>
      rw [if_neg (by decide)]
      refine eq_of_parts hnearest ?_
      rw [hparts, ← hnegative]
  | true =>
      rw [if_pos rfl]
      refine eq_of_parts (ofFloat_neg hnearest) ?_
      rw [hparts, Bool.not_false, ← hnegative]

end Screener.Decimal
