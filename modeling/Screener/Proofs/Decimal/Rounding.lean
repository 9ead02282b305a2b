import Mathlib.Algebra.Order.Field.Power
import Mathlib.Algebra.Order.Field.Rat
import Mathlib.Tactic.FieldSimp
import Mathlib.Tactic.Linarith
import Mathlib.Tactic.Positivity
import Mathlib.Tactic.Ring
import Screener.Decimal.Binary

/-!
# Rounding to doubles

An operation on doubles calculates digits of the exact result, with two bits for what follows them,
and rounds them to the nearest double, a half to the even one.  `Approximates` says what the digits and
the two bits know of the exact number.  Leaving digits out keeps it (`Approximates.shift`), and rounding
gives the integer that the number is nearest to (`Approximates.roundedMantissa_eq`).
-/

namespace Screener.Decimal

open Float.Model UnpackedFloat

/-! ## Digits and two bits -/

/-- Half a unit, if the bit for it is set. -/
def half (bit : Bool) : ℚ := if bit then 1 / 2 else 0

theorem half_bounds (bit : Bool) : 0 ≤ half bit ∧ half bit ≤ 1 / 2 := by
  cases bit <;> norm_num [half]

/-- The digits of a number are its whole part, the first bit tells whether at least a half follows, and
the second whether anything follows then. -/
structure Approximates (em : ExtendedMantissa) (r : ℚ) : Prop where
  low : em.mantissa + half em.roundBit ≤ r
  high : r < em.mantissa + half em.roundBit + 1 / 2
  exact_iff : em.stickyBit = false ↔ r = em.mantissa + half em.roundBit

theorem Approximates.shiftRightOne {em : ExtendedMantissa} {r : ℚ} (h : Approximates em r) :
    Approximates em.shiftRightOne (r / 2) := by
  obtain ⟨m, round, sticky⟩ := em
  obtain ⟨hlow, hhigh, hexact⟩ := h
  dsimp only at hlow hhigh hexact
  -- the last digit becomes the bit for a half
  have hm : ((m / 2 : Nat) : ℚ) + half (m % 2 != 0) = m / 2 := by
    have hdigit : (m : ℚ) = 2 * (m / 2 : Nat) + (m % 2 : Nat) := by
      exact_mod_cast (Nat.div_add_mod m 2).symm
    rcases Nat.mod_two_eq_zero_or_one m with hmod | hmod
    · have hround : half (0 != 0) = 0 := rfl
      rw [hdigit, hmod, hround]
      push_cast
      ring
    · have hround : half (1 != 0) = 1 / 2 := rfl
      rw [hdigit, hmod, hround]
      push_cast
      ring
  obtain ⟨hnonneg, hle⟩ := half_bounds round
  constructor
  · show ((m / 2 : Nat) : ℚ) + half (m % 2 != 0) ≤ r / 2
    rw [hm]
    linarith
  · show r / 2 < ((m / 2 : Nat) : ℚ) + half (m % 2 != 0) + 1 / 2
    rw [hm]
    linarith
  · show (round || sticky) = false ↔ r / 2 = ((m / 2 : Nat) : ℚ) + half (m % 2 != 0)
    rw [hm]
    cases round with
    | false =>
        rw [Bool.false_or, hexact]
        simp only [half]
        constructor <;> intro heq <;> simp at heq ⊢ <;> linarith
    | true =>
        have hround : half true = 1 / 2 := rfl
        refine ⟨nofun, fun heq => ?_⟩
        linarith

theorem Approximates.shift {em : ExtendedMantissa} {r : ℚ} (h : Approximates em r) (n : Nat) :
    Approximates (em >>> n) (r / 2 ^ n) := by
  induction n with
  | zero =>
      rw [pow_zero, div_one]
      exact h
  | succ n ih =>
      rw [pow_succ, ← div_div]
      exact ih.shiftRightOne

/-- A number that is known exactly. -/
theorem approximates_exact (m : Nat) :
    Approximates (.ofMantissaAndAccuracy m .exact) m where
  low := by simp [ExtendedMantissa.ofMantissaAndAccuracy, half]
  high := by simp [ExtendedMantissa.ofMantissaAndAccuracy, half]
  exact_iff := by simp [ExtendedMantissa.ofMantissaAndAccuracy, half]

/-- Less than a half follows. -/
theorem approximates_lt (m : Nat) {rest : ℚ} (hpos : 0 < rest) (hlt : rest < 1 / 2) :
    Approximates (.ofMantissaAndAccuracy m (.inexact .lt)) (m + rest) := by
  refine ⟨?_, ?_, ?_⟩ <;>
    simp only [ExtendedMantissa.ofMantissaAndAccuracy, half, Bool.false_eq_true, if_false]
  · linarith
  · linarith
  · refine ⟨nofun, fun heq => ?_⟩
    linarith

/-- A half follows. -/
theorem approximates_eq (m : Nat) :
    Approximates (.ofMantissaAndAccuracy m (.inexact .eq)) (m + 1 / 2) := by
  refine ⟨?_, ?_, ?_⟩ <;> simp [ExtendedMantissa.ofMantissaAndAccuracy, half]

/-- More than a half follows. -/
theorem approximates_gt (m : Nat) {rest : ℚ} (hgt : 1 / 2 < rest) (hlt : rest < 1) :
    Approximates (.ofMantissaAndAccuracy m (.inexact .gt)) (m + rest) := by
  refine ⟨?_, ?_, ?_⟩ <;> simp only [ExtendedMantissa.ofMantissaAndAccuracy, half, if_true]
  · linarith
  · linarith
  · refine ⟨nofun, fun heq => ?_⟩
    linarith

/-- A number and a fraction of one. -/
theorem approximates_fraction (m : Nat) {numerator denominator : Nat}
    (hfraction : numerator < denominator) :
    Approximates (.ofMantissaAndAccuracy m (accuracyOfFraction numerator denominator))
      (m + numerator / denominator) := by
  have hpos : (0 : ℚ) < denominator := by
    exact_mod_cast (Nat.zero_le numerator).trans_lt hfraction
  have hone : (numerator : ℚ) / denominator < 1 := by
    rw [div_lt_one hpos]
    exact_mod_cast hfraction
  unfold accuracyOfFraction
  split
  case isTrue hzero =>
    rw [hzero]
    simpa using approximates_exact m
  case isFalse hzero =>
    have hnumerator : (0 : ℚ) < numerator := by exact_mod_cast Nat.pos_of_ne_zero hzero
    cases hcompare : compare (2 * numerator) denominator with
    | lt =>
        have hlt : (2 : ℚ) * numerator < denominator := by
          exact_mod_cast Nat.compare_eq_lt.mp hcompare
        refine approximates_lt m (div_pos hnumerator hpos) ?_
        rw [div_lt_iff₀ hpos]
        linarith
    | eq =>
        have heq : (2 : ℚ) * numerator = denominator := by
          exact_mod_cast Nat.compare_eq_eq.mp hcompare
        have hhalf : (numerator : ℚ) / denominator = 1 / 2 := by
          rw [div_eq_iff hpos.ne']
          linarith
        rw [hhalf]
        exact approximates_eq m
    | gt =>
        have hgt : (denominator : ℚ) < 2 * numerator := by
          exact_mod_cast Nat.compare_eq_gt.mp hcompare
        refine approximates_gt m ?_ hone
        rw [lt_div_iff₀ hpos]
        linarith

/-! ## The nearest integer -/

/-- A number is nearer to an integer than to others, or halfway to another if the integer is even. -/
def RoundsTo (r : ℚ) (s : Nat) : Prop :=
  if s % 2 = 0 then (s : ℚ) - 1 / 2 ≤ r ∧ r ≤ s + 1 / 2 else (s : ℚ) - 1 / 2 < r ∧ r < s + 1 / 2

theorem RoundsTo.bounds {r : ℚ} {s : Nat} (h : RoundsTo r s) :
    (s : ℚ) - 1 / 2 ≤ r ∧ r ≤ s + 1 / 2 := by
  unfold RoundsTo at h
  split at h
  · exact h
  · exact ⟨h.1.le, h.2.le⟩

theorem RoundsTo.eq_of_lt_half {r : ℚ} {m s : Nat} (h : RoundsTo r s) (hlow : (m : ℚ) ≤ r)
    (hhigh : r < m + 1 / 2) : s = m := by
  obtain ⟨hbelow, habove⟩ := h.bounds
  have hle : (s : ℚ) < (m + 1 : Nat) := by push_cast; linarith
  have hge : (m : ℚ) < (s + 1 : Nat) := by push_cast; linarith
  exact le_antisymm (Nat.lt_succ_iff.mp (Nat.cast_lt.mp hle))
    (Nat.lt_succ_iff.mp (Nat.cast_lt.mp hge))

theorem RoundsTo.eq_of_half_lt {r : ℚ} {m s : Nat} (h : RoundsTo r s) (hlow : (m : ℚ) + 1 / 2 < r)
    (hhigh : r < m + 1) : s = m + 1 := by
  obtain ⟨hbelow, habove⟩ := h.bounds
  have hle : (s : ℚ) < (m + 2 : Nat) := by push_cast; linarith
  have hge : (m : ℚ) < s := by linarith
  exact le_antisymm (Nat.lt_succ_iff.mp (Nat.cast_lt.mp hle)) (Nat.cast_lt.mp hge)

/-- A half is rounded to the even neighbour. -/
theorem RoundsTo.eq_of_half {m s : Nat} (h : RoundsTo (m + 1 / 2) s) : s = m + m % 2 := by
  unfold RoundsTo at h
  split at h
  case isTrue heven =>
    have hle : (s : ℚ) < (m + 2 : Nat) := by push_cast; linarith
    have hge : (m : ℚ) < (s + 1 : Nat) := by push_cast; linarith
    have := Nat.cast_lt.mp hle
    have := Nat.cast_lt.mp hge
    omega
  case isFalse hodd =>
    have hlt : (s : ℚ) < (m + 1 : Nat) := by push_cast; linarith
    have hgt : (m : ℚ) < s := by linarith
    have := Nat.cast_lt.mp hlt
    have := Nat.cast_lt.mp hgt
    omega

/-- The digits are rounded to the nearest integer. -/
theorem Approximates.roundedMantissa_eq {em : ExtendedMantissa} {r : ℚ} {s : Nat}
    (h : Approximates em r) (hrounds : RoundsTo r s) : em.roundedMantissa = s := by
  obtain ⟨m, round, sticky⟩ := em
  obtain ⟨hlow, hhigh, hexact⟩ := h
  dsimp only at hlow hhigh hexact
  cases round with
  | false =>
      have hround : half false = 0 := rfl
      rw [hround, add_zero] at hlow hhigh
      rw [hrounds.eq_of_lt_half hlow hhigh]
      cases sticky <;> rfl
  | true =>
      have hround : half true = 1 / 2 := rfl
      rw [hround] at hlow hhigh hexact
      cases sticky with
      | false =>
          rw [hexact.mp rfl] at hrounds
          rw [hrounds.eq_of_half]
          rfl
      | true =>
          have hne : r ≠ m + 1 / 2 := fun heq => Bool.noConfusion (hexact.mpr heq)
          rw [hrounds.eq_of_half_lt (lt_of_le_of_ne hlow hne.symm) (by linarith)]
          rfl

/-! ## Rounding to 53 digits -/

/-- Doubles have 53 digits in base two, and no exponent below -1074. -/
theorem targetExponent_binary64 (total : Int) :
    Format.binary64.targetExponent total = max (total - 53) (-1074) := rfl

theorem targetExponent_eq (m : Nat) (e : Int) :
    Format.binary64.targetExponent (totalExponent m e) = max (m.log2 + e - 52) (-1074) := by
  rw [targetExponent_binary64, totalExponent]
  omega

theorem shiftToTargetExponent_eq {m : Nat} {e t : Int} (acc : Accuracy)
    (ht : max (m.log2 + e - 52) (-1074) = t) (he : e ≤ t) :
    shiftToTargetExponent Format.binary64 m e acc =
      (ExtendedMantissa.ofMantissaAndAccuracy m acc >>> (t - e).toNat, t) := by
  rw [shiftToTargetExponent, targetExponent_eq, ht, shiftToExponent, Int.toNat_of_nonneg (by omega)]
  rw [add_sub_cancel]

/-- 53 digits fit. -/
theorem shiftToTargetExponent_of_lt {s : Nat} {t : Int} (hs : s < 2 ^ 53) (ht : -1074 ≤ t) :
    shiftToTargetExponent Format.binary64 s t .exact = (⟨s, false, false⟩, t) := by
  have hlog : s.log2 ≤ 52 := by
    by_cases hzero : s = 0
    · simp [hzero]
    · have := (Nat.log2_lt hzero).mpr hs
      omega
  have hshift : (max ((s.log2 : Int) + t - 52) (-1074) - t).toNat = 0 := by omega
  rw [shiftToTargetExponent, targetExponent_eq, shiftToExponent, hshift]
  simp [HShiftRight.hShiftRight, Nat.repeat, ExtendedMantissa.ofMantissaAndAccuracy]

/-- One digit more is left out. -/
theorem shiftToTargetExponent_carry {t : Int} (ht : -1074 ≤ t) :
    shiftToTargetExponent Format.binary64 (2 ^ 53) t .exact = (⟨2 ^ 52, false, false⟩, t + 1) := by
  have htarget : max (((2 ^ 53 : Nat).log2 : Int) + t - 52) (-1074) = t + 1 := by
    rw [Nat.log2_two_pow]
    omega
  rw [shiftToTargetExponent_eq .exact htarget (by omega), show (t + 1 - t).toNat = 1 by omega]
  rfl

variable {m : Nat} {e t : Int} {acc : Accuracy} {r : ℚ} {s : Nat} (sign : Sign)

/-- Digits are left out and rounded, and one more is left out if that gives too many. -/
theorem roundWithAccuracy_eq {em : ExtendedMantissa} {t' : Int}
    (hfirst : shiftToTargetExponent Format.binary64 m e acc = (em, t))
    (hsecond : shiftToTargetExponent Format.binary64 em.roundedMantissa t .exact =
      (⟨s, false, false⟩, t')) (hpos : 0 < s) :
    roundWithAccuracy Format.binary64 sign m e acc = .finite sign s t' hpos := by
  unfold roundWithAccuracy
  rw [hfirst]
  dsimp only
  rw [hsecond]
  exact dif_neg hpos.ne'

theorem roundWithAccuracy_eq_finite (ht : max (m.log2 + e - 52) (-1074) = t) (he : e ≤ t)
    (happrox : Approximates (.ofMantissaAndAccuracy m acc) r)
    (hrounds : RoundsTo (r / 2 ^ (t - e).toNat) s) (hpos : 0 < s) (hs : s < 2 ^ 53) :
    roundWithAccuracy Format.binary64 sign m e acc = .finite sign s t hpos := by
  have hrounded := (happrox.shift (t - e).toNat).roundedMantissa_eq hrounds
  refine roundWithAccuracy_eq sign (shiftToTargetExponent_eq acc ht he) ?_ hpos
  rw [hrounded]
  exact shiftToTargetExponent_of_lt hs (ht ▸ le_max_right _ _)

theorem roundWithAccuracy_eq_carry (ht : max (m.log2 + e - 52) (-1074) = t) (he : e ≤ t)
    (happrox : Approximates (.ofMantissaAndAccuracy m acc) r)
    (hrounds : RoundsTo (r / 2 ^ (t - e).toNat) (2 ^ 53)) :
    roundWithAccuracy Format.binary64 sign m e acc = .finite sign (2 ^ 52) (t + 1) (by decide) := by
  have hrounded := (happrox.shift (t - e).toNat).roundedMantissa_eq hrounds
  refine roundWithAccuracy_eq sign (shiftToTargetExponent_eq acc ht he) ?_ (by decide)
  rw [hrounded]
  exact shiftToTargetExponent_carry (ht ▸ le_max_right _ _)

/-! ## The numbers that round to a double -/

/-- A positive double as it is kept: with 53 digits, or with fewer and the least exponent. -/
structure Binary.IsCanonical (b : Binary) : Prop where
  fits : b.significand < 2 ^ 53
  low : -1074 ≤ b.exponent
  high : b.exponent ≤ 971
  full : b.exponent = -1074 ∨ 2 ^ 52 ≤ b.significand

/-- How far below a double the numbers that round to it go, in units of its last digit. -/
def Binary.below (b : Binary) : ℚ := if b.crowdedBelow then 1 / 4 else 1 / 2

/-- A number is between the middles of a double and its two neighbours, or on one of them if the
significand is even. -/
def Binary.Covers (b : Binary) (q : ℚ) : Prop :=
  if b.significand % 2 = 0 then
    (b.significand - b.below) * 2 ^ b.exponent ≤ q ∧ q ≤ (b.significand + 1 / 2) * 2 ^ b.exponent
  else (b.significand - b.below) * 2 ^ b.exponent < q ∧ q < (b.significand + 1 / 2) * 2 ^ b.exponent

theorem Binary.below_le (b : Binary) : b.below ≤ 1 / 2 := by
  unfold below
  split <;> norm_num

theorem Binary.Covers.bounds {b : Binary} {q : ℚ} (h : b.Covers q) :
    (b.significand - b.below) * 2 ^ b.exponent ≤ q ∧
      q ≤ (b.significand + 1 / 2) * 2 ^ b.exponent := by
  unfold Covers at h
  split at h
  · exact h
  · exact ⟨h.1.le, h.2.le⟩

theorem Binary.Covers.roundsTo {b : Binary} {q : ℚ} (h : b.Covers q) :
    RoundsTo (q / 2 ^ b.exponent) b.significand := by
  have hunit : (0 : ℚ) < 2 ^ b.exponent := by positivity
  have hbelow : ((b.significand : ℚ) - 1 / 2) * 2 ^ b.exponent ≤
      (b.significand - b.below) * 2 ^ b.exponent := by
    have := b.below_le
    exact mul_le_mul_of_nonneg_right (by linarith) hunit.le
  unfold Covers at h
  unfold RoundsTo
  split
  case isTrue heven =>
    rw [if_pos heven] at h
    rw [le_div_iff₀ hunit, div_le_iff₀ hunit]
    exact ⟨hbelow.trans h.1, h.2⟩
  case isFalse hodd =>
    rw [if_neg hodd] at h
    rw [lt_div_iff₀ hunit, div_lt_iff₀ hunit]
    exact ⟨hbelow.trans_lt h.1, h.2⟩

theorem Approximates.bounds {m : Nat} {acc : Accuracy} {r : ℚ}
    (h : Approximates (.ofMantissaAndAccuracy m acc) r) : (m : ℚ) ≤ r ∧ r < m + 1 := by
  have hmantissa : (ExtendedMantissa.ofMantissaAndAccuracy m acc).mantissa = m := by
    cases acc with
    | exact => rfl
    | inexact order => cases order <;> rfl
  obtain ⟨hlow, hhigh, -⟩ := h
  rw [hmantissa] at hlow hhigh
  obtain ⟨hnonneg, hle⟩ := half_bounds (ExtendedMantissa.ofMantissaAndAccuracy m acc).roundBit
  constructor <;> linarith

/-- The exponent of a rounded number, if the number has more than 52 digits. -/
theorem targetExponent_of_bounds {m : Nat} {e t : Int} {q : ℚ} (hlow : (m : ℚ) * 2 ^ e ≤ q)
    (hhigh : q < (m + 1) * 2 ^ e) (hbits : 52 ≤ m.log2 ∨ e ≤ -1074) (ht : -1074 ≤ t)
    (hqhigh : q < 2 ^ (t + 53)) (hqlow : 2 ^ (t + 52) ≤ q ∨ t = -1074) :
    max (m.log2 + e - 52) (-1074) = t := by
  rcases Nat.eq_zero_or_pos m with rfl | hm
  · have he : e ≤ -1074 := hbits.resolve_left (by decide)
    have hlog : Nat.log2 0 = 0 := rfl
    rcases hqlow with hqlow | hqlow
    · have hlt : (2 : ℚ) ^ (t + 52) < 2 ^ e := by
        simpa using hqlow.trans_lt hhigh
      have := (zpow_lt_zpow_iff_right₀ one_lt_two).mp hlt
      omega
    · omega
  · have hpow : ((2 ^ m.log2 : Nat) : ℚ) = 2 ^ (m.log2 : Int) := by push_cast; rfl
    have hpow' : ((2 ^ (m.log2 + 1) : Nat) : ℚ) = 2 ^ ((m.log2 : Int) + 1) := by push_cast; rfl
    have hfloor : (2 : ℚ) ^ ((m.log2 : Int) + e) ≤ q := by
      rw [zpow_add₀ two_ne_zero, ← hpow]
      refine le_trans (mul_le_mul_of_nonneg_right ?_ (by positivity)) hlow
      exact_mod_cast Nat.log2_self_le hm.ne'
    have hceil : q < (2 : ℚ) ^ ((m.log2 : Int) + 1 + e) := by
      rw [zpow_add₀ two_ne_zero, ← hpow']
      refine lt_of_lt_of_le hhigh (mul_le_mul_of_nonneg_right ?_ (by positivity))
      exact_mod_cast Nat.lt_log2_self
    have hle := (zpow_lt_zpow_iff_right₀ one_lt_two).mp (hfloor.trans_lt hqhigh)
    rcases hqlow with hqlow | hqlow
    · have hge := (zpow_lt_zpow_iff_right₀ one_lt_two).mp (hqlow.trans_lt hceil)
      omega
    · omega

theorem div_zpow_div_pow (q : ℚ) {e t : Int} (he : e ≤ t) :
    q / 2 ^ e / 2 ^ (t - e).toNat = q / 2 ^ t := by
  rw [div_div, ← zpow_natCast, Int.toNat_of_nonneg (by omega), ← zpow_add₀ two_ne_zero]
  congr 2
  omega

/-- A number with more digits than the double that covers it is just below a power of two. -/
theorem Binary.Covers.crowded {b : Binary} (hb : b.IsCanonical) {q : ℚ} (hq : b.Covers q)
    (hnormal : b.exponent ≠ -1074) (hlow : q < 2 ^ (b.exponent + 52)) :
    b.significand = 2 ^ 52 ∧ 2 ^ (b.exponent - 1 + 52) ≤ q ∧
      RoundsTo (q / 2 ^ (b.exponent - 1)) (2 ^ 53) := by
  have hunit : (0 : ℚ) < 2 ^ b.exponent := by positivity
  have hpow : (2 : ℚ) ^ (52 : Int) = 2 ^ 52 := rfl
  have hhalf : (2 : ℚ) ^ (b.exponent - 1) = 2 ^ b.exponent / 2 := by
    rw [zpow_sub₀ two_ne_zero, zpow_one]
  obtain ⟨hbelow, -⟩ := hq.bounds
  rw [zpow_add₀ two_ne_zero, hpow] at hlow
  have hsignificand : b.significand = 2 ^ 52 := by
    have hsmall : (b.significand : ℚ) < (2 ^ 52 + 1 : Nat) := by
      rw [mul_comm] at hlow
      have hlt := lt_of_mul_lt_mul_right (hbelow.trans_lt hlow) hunit.le
      have := b.below_le
      push_cast
      linarith
    exact le_antisymm (Nat.lt_succ_iff.mp (Nat.cast_lt.mp hsmall)) (hb.full.resolve_left hnormal)
  have hcrowded : b.below = 1 / 4 := by
    rw [Binary.below, Binary.crowdedBelow, if_pos]
    simp [hsignificand, powerOfTwo, hnormal]
  rw [hcrowded, hsignificand] at hbelow
  push_cast at hbelow
  refine ⟨hsignificand, ?_, ?_⟩
  · rw [zpow_add₀ two_ne_zero, hhalf, hpow]
    linarith
  · rw [RoundsTo, if_pos (by decide), le_div_iff₀ (by positivity), div_le_iff₀ (by positivity),
      hhalf]
    push_cast
    constructor <;> linarith

/-- **Rounding.**  The numbers that a double covers are rounded to it. -/
theorem roundWithAccuracy_of_covers {b : Binary} (hb : b.IsCanonical) (hpos : 0 < b.significand)
    {q : ℚ} (hq : b.Covers q) {m : Nat} {e : Int} {acc : Accuracy} (sign : Sign)
    (happrox : Approximates (.ofMantissaAndAccuracy m acc) (q / 2 ^ e))
    (hbits : 52 ≤ m.log2 ∨ e ≤ -1074) :
    roundWithAccuracy Format.binary64 sign m e acc =
      .finite sign b.significand b.exponent hpos := by
  obtain ⟨hlow, hhigh⟩ := happrox.bounds
  rw [le_div_iff₀ (by positivity)] at hlow
  rw [div_lt_iff₀ (by positivity)] at hhigh
  obtain ⟨-, habove⟩ := hq.bounds
  have hexponent := hb.low
  by_cases hside : 2 ^ (b.exponent + 52) ≤ q ∨ b.exponent = -1074
  · have hqhigh : q < 2 ^ (b.exponent + 53) := by
      have hunit : (0 : ℚ) < 2 ^ b.exponent := by positivity
      have hfits : (b.significand : ℚ) + 1 ≤ 2 ^ (53 : Int) := by exact_mod_cast hb.fits
      rw [zpow_add₀ two_ne_zero]
      nlinarith
    have ht := targetExponent_of_bounds hlow hhigh hbits hb.low hqhigh hside
    have he : e ≤ b.exponent := by omega
    refine roundWithAccuracy_eq_finite sign ht he happrox ?_ hpos hb.fits
    rw [div_zpow_div_pow q he]
    exact hq.roundsTo
  · -- the number gets one digit more than the double has, which the rounding takes back
    rw [not_or, not_le] at hside
    obtain ⟨hqlow, hnormal⟩ := hside
    obtain ⟨hsignificand, hqlow', hrounds⟩ := hq.crowded hb hnormal hqlow
    have hqhigh : q < 2 ^ (b.exponent - 1 + 53) := by
      rw [show b.exponent - 1 + 53 = b.exponent + 52 by omega]
      exact hqlow
    have ht := targetExponent_of_bounds hlow hhigh hbits (by omega) hqhigh (.inl hqlow')
    have he : e ≤ b.exponent - 1 := by omega
    rw [← div_zpow_div_pow q he] at hrounds
    rw [roundWithAccuracy_eq_carry sign ht he happrox hrounds, UnpackedFloat.finite.injEq]
    exact ⟨rfl, hsignificand.symm, by omega⟩

end Screener.Decimal
