import Mathlib.Algebra.Order.Field.Power
import Mathlib.Algebra.Order.Field.Rat
import Mathlib.Tactic.Positivity
import Screener.Decimal.Binary

/-!
# The value of a double

A finite double stands for a rational number, read off its parts (`Decimal.value?`), and infinities
and undefined numbers stand for none (`isSome_value?_iff`).  The parts tell which doubles stand for
natural numbers, and for which: `natural?_eq_some_iff`.
-/

namespace Screener.Decimal

/-- The rational number that the parts of a finite double stand for. -/
def Binary.value (b : Binary) : ℚ :=
  (if b.negative then -1 else 1) * b.significand * 2 ^ b.exponent

/-- The rational number that a double stands for, if it is finite. -/
def Parts.value? : Parts → Option ℚ
  | .finite b => some b.value
  | _ => none

/-- The rational number that a double stands for, if it is finite. -/
def value? (x : Float) : Option ℚ := (Parts.ofFloat x).value?

/-! ## Natural numbers -/

namespace Binary

/-- Below zero there is no natural number. -/
theorem value_ne_natCast_of_negative {b : Binary} (hnegative : b.negative = true)
    (hsignificand : b.significand ≠ 0) (n : Nat) : b.value ≠ n := by
  have hpos : 0 < (b.significand : ℚ) * 2 ^ b.exponent := by positivity
  have hvalue : b.value = -((b.significand : ℚ) * 2 ^ b.exponent) := by
    rw [value, if_pos hnegative, neg_one_mul, neg_mul]
  rw [hvalue]
  exact ne_of_lt ((neg_neg_of_pos hpos).trans_le (Nat.cast_nonneg n))

/-- Without a sign, or if it is zero, the double is its significand with a power of two. -/
theorem value_eq_of_not_negative {b : Binary}
    (hsign : ¬(b.negative = true ∧ b.significand ≠ 0)) :
    b.value = b.significand * 2 ^ b.exponent := by
  by_cases hzero : b.significand = 0
  · simp [value, hzero]
  · have hnegative : b.negative ≠ true := fun h => hsign ⟨h, hzero⟩
    rw [value, if_neg hnegative, one_mul]

theorem natural?_eq_some_iff (b : Binary) (n : Nat) : b.natural? = some n ↔ b.value = n := by
  unfold natural?
  by_cases hsign : b.negative = true ∧ b.significand ≠ 0
  · have hnone : (b.negative && b.significand != 0) = true := by simpa using hsign
    rw [if_pos hnone]
    exact ⟨nofun, fun h => absurd h (value_ne_natCast_of_negative hsign.1 hsign.2 n)⟩
  · have hsome : ¬(b.negative && b.significand != 0) = true := by simpa using hsign
    rw [if_neg hsome, value_eq_of_not_negative hsign]
    by_cases hexponent : 0 ≤ b.exponent
    · have hpower : (2 : ℚ) ^ b.exponent = ((2 ^ b.exponent.natAbs : Nat) : ℚ) := by
        rw [Nat.cast_pow, Nat.cast_ofNat, ← zpow_natCast, Int.natAbs_of_nonneg hexponent]
      rw [if_pos hexponent, hpower, Option.some_inj, ← Nat.cast_mul, Nat.cast_inj]
      rfl
    · have hpower : (2 : ℚ) ^ b.exponent = (((2 ^ b.exponent.natAbs : Nat) : ℚ))⁻¹ := by
        rw [Nat.cast_pow, Nat.cast_ofNat, ← zpow_natCast, ← zpow_neg,
          Int.ofNat_natAbs_of_nonpos (by omega), Int.neg_neg]
      have hdivides : (b.significand : ℚ) * ((2 ^ b.exponent.natAbs : Nat) : ℚ)⁻¹ = n ↔
          b.significand = 2 ^ b.exponent.natAbs * n := by
        rw [← div_eq_mul_inv, div_eq_iff (by positivity), mul_comm, ← Nat.cast_mul, Nat.cast_inj]
      rw [if_neg hexponent, hpower, hdivides]
      show (if b.significand % 2 ^ b.exponent.natAbs = 0 then
        some (b.significand / 2 ^ b.exponent.natAbs) else none) = some n ↔ _
      have hpos : 0 < 2 ^ b.exponent.natAbs := Nat.two_pow_pos _
      split
      · next hmod =>
          rw [Option.some_inj, Nat.div_eq_iff_eq_mul_right hpos (Nat.dvd_of_mod_eq_zero hmod)]
      · next hmod =>
          refine ⟨nofun, fun h => absurd ?_ hmod⟩
          rw [h, Nat.mul_mod_right]

end Binary

/-- The parts of a double know the natural number that it stands for. -/
theorem natural?_eq_some_iff (x : Float) (n : Nat) :
    (Parts.ofFloat x).natural? = some n ↔ value? x = some (n : ℚ) := by
  unfold value?
  cases Parts.ofFloat x with
  | finite b =>
      rw [Parts.natural?, Parts.value?, Option.some_inj]
      exact b.natural?_eq_some_iff n
  | infinite _ => simp [Parts.natural?, Parts.value?]
  | notANumber => simp [Parts.natural?, Parts.value?]

/-! ## Finite doubles -/

theorem Parts.isSome_value?_ofBits (bits : Nat) :
    (Parts.ofBits bits).value?.isSome = true ↔ bits / powerOfTwo 52 % powerOfTwo 11 ≠ 2047 := by
  unfold Parts.ofBits
  by_cases hscale : bits / powerOfTwo 52 % powerOfTwo 11 = 2047
  · simp only [if_pos hscale]
    split <;> exact ⟨nofun, fun h => absurd hscale h⟩
  · simp only [if_neg hscale]
    split <;> exact ⟨fun _ => hscale, fun _ => rfl⟩

section

open Float.Model Float.Model.UnpackedFloat

theorem isFinite_unpack {format : Format} (bits : BitVec format.numBits) :
    (UnpackedFloat.unpack format bits).isFinite = true ↔ unpackExponent bits ≠ -1#_ := by
  unfold UnpackedFloat.unpack
  by_cases hscale : unpackExponent bits = -1#_
  · rw [if_pos hscale]
    by_cases hfraction : unpackMantissa bits = 0#_
    · rw [if_pos hfraction]
      exact ⟨fun h => Bool.noConfusion h, fun h => absurd hscale h⟩
    · rw [if_neg hfraction]
      exact ⟨fun h => Bool.noConfusion h, fun h => absurd hscale h⟩
  · refine ⟨fun _ => hscale, fun _ => ?_⟩
    rw [if_neg hscale]
    by_cases hsubnormal : unpackExponent bits = 0#_
    · rw [if_pos hsubnormal]
      by_cases hfraction : unpackMantissa bits = 0#_
      · rw [dif_pos hfraction]
        rfl
      · rw [dif_neg hfraction]
        rfl
    · rw [if_neg hsubnormal]
      rfl

/-- The doubles with a value are the finite ones. -/
theorem isSome_value?_iff (x : Float) : (value? x).isSome = true ↔ x.isFinite = true := by
  have hscale : @unpackExponent Format.binary64 x.toBits.toBitVec = -1#_ ↔
      x.toBits.toNat / powerOfTwo 52 % powerOfTwo 11 = 2047 := by
    rw [← BitVec.toNat_inj]
    simp [unpackExponent, BitVec.extractLsb_toNat, Nat.shiftRight_eq_div_pow, powerOfTwo]
  calc (value? x).isSome = true
      ↔ x.toBits.toNat / powerOfTwo 52 % powerOfTwo 11 ≠ 2047 := Parts.isSome_value?_ofBits _
    _ ↔ @unpackExponent Format.binary64 x.toBits.toBitVec ≠ -1#_ := not_congr hscale.symm
    _ ↔ x.isFinite = true := (isFinite_unpack _).symm

end

end Screener.Decimal
