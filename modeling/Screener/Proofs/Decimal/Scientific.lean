import Screener.Decimal.Reader
import Screener.Proofs.Decimal.Operations

/-!
# Reading decimals into doubles

A decimal of any size is read as the double that covers it (`Decimal.ofFloat_nearest`): short ones as a
product or a quotient of two doubles, the others in whole numbers, and both are rounded once.  What is
read without a minus sign is never negative (`Decimal.not_negative_of_readFloat?`).
-/

namespace Screener.Decimal

open Float.Model UnpackedFloat

variable {b : Binary}

/-! ## Whole numbers -/

/-- A double covers itself. -/
theorem Binary.covers_self (b : Binary) : b.Covers (b.significand * 2 ^ b.exponent) := by
  have hunit : (0 : ℚ) < 2 ^ b.exponent := by positivity
  have hbelow : 0 < b.below := by
    unfold below
    split <;> norm_num
  have hlow : ((b.significand : ℚ) - b.below) * 2 ^ b.exponent < b.significand * 2 ^ b.exponent :=
    mul_lt_mul_of_pos_right (by linarith) hunit
  have hhigh : (b.significand : ℚ) * 2 ^ b.exponent < (b.significand + 1 / 2) * 2 ^ b.exponent :=
    mul_lt_mul_of_pos_right (by linarith) hunit
  unfold Covers
  split
  · exact ⟨hlow.le, hhigh.le⟩
  · exact ⟨hlow, hhigh⟩

/-- A whole number of at most 53 digits, filled up to 53. -/
def Binary.whole (n : Nat) : Binary := ⟨false, n * 2 ^ (52 - n.log2), n.log2 - 52⟩

theorem Binary.isCanonical_whole {n : Nat} (hpos : 0 < n) (hn : n < 2 ^ 53) :
    (whole n).IsCanonical ∧ 2 ^ 52 ≤ (whole n).significand := by
  have hlog : n.log2 < 53 := (Nat.log2_lt hpos.ne').mpr hn
  have hfull : 2 ^ 52 ≤ n * 2 ^ (52 - n.log2) := by
    calc 2 ^ 52 = 2 ^ n.log2 * 2 ^ (52 - n.log2) := by
          rw [← pow_add]
          congr 1
          omega
      _ ≤ n * 2 ^ (52 - n.log2) := Nat.mul_le_mul_right _ (Nat.log2_self_le hpos.ne')
  have hfits : n * 2 ^ (52 - n.log2) < 2 ^ 53 := by
    calc n * 2 ^ (52 - n.log2) < 2 ^ (n.log2 + 1) * 2 ^ (52 - n.log2) :=
          Nat.mul_lt_mul_of_pos_right Nat.lt_log2_self (by positivity)
      _ = 2 ^ 53 := by
          rw [← pow_add]
          congr 1
          omega
  refine ⟨⟨hfits, ?_, ?_, .inr hfull⟩, hfull⟩ <;> rw [whole] <;> dsimp only <;> omega

theorem Binary.whole_value {n : Nat} (hn : n.log2 < 53) :
    ((whole n).significand : ℚ) * 2 ^ (whole n).exponent = n := by
  have hexponent : (n.log2 : Int) - 52 = -((52 - n.log2 : Nat) : Int) := by omega
  rw [whole]
  dsimp only
  rw [hexponent, zpow_neg, zpow_natCast]
  push_cast
  field_simp

theorem round_whole {n : Nat} (hpos : 0 < n) (hn : n < 2 ^ 53)
    (hsignificand : 0 < (Binary.whole n).significand) :
    UnpackedFloat.round Format.binary64 .positive n 0 =
      .finite .positive (Binary.whole n).significand (Binary.whole n).exponent hsignificand := by
  obtain ⟨hcanonical, hfull⟩ := Binary.isCanonical_whole hpos hn
  have hlog : n.log2 < 53 := (Nat.log2_lt hpos.ne').mpr hn
  have htarget : Format.binary64.targetExponent (totalExponent n 0) = n.log2 - 52 := by
    rw [targetExponent_eq]
    omega
  have hshift : ((0 : Int) - (n.log2 - 52)).toNat = 52 - n.log2 := by omega
  have hexponent : (0 : Int) - (52 - n.log2 : Nat) = n.log2 - 52 := by omega
  rw [UnpackedFloat.round, htarget, decreaseExponent, hshift]
  dsimp only
  rw [Nat.shiftLeft_eq, hexponent]
  refine roundWithAccuracy_of_covers hcanonical hsignificand
    (Binary.covers_self _) .positive ?_ (.inl ?_)
  · rw [show (Binary.whole n).exponent = n.log2 - 52 from rfl, mul_div_cancel_right₀]
    · exact approximates_exact _
    · positivity
  · exact (Nat.le_log2 hsignificand.ne').mpr hfull

/-- Whole numbers of at most 53 digits are doubles. -/
theorem value?_toFloat {n : Nat} (hpos : 0 < n) (hn : n < 2 ^ 53) :
    value? n.toUInt64.toFloat = some (n : ℚ) := by
  obtain ⟨hcanonical, hfull⟩ := Binary.isCanonical_whole hpos hn
  have hlog : n.log2 < 53 := (Nat.log2_lt hpos.ne').mpr hn
  have hsignificand : 0 < (Binary.whole n).significand := hfull.trans_lt' (by decide)
  have htoNat : n.toUInt64.toNat = n := by
    rw [Nat.toUInt64_eq, UInt64.toNat_ofNat']
    omega
  have hparts : Parts.ofFloat n.toUInt64.toFloat = .finite (Binary.whole n) := by
    show Parts.ofFloat (.ofModel (.pack (UnpackedFloat.normalize Format.binary64
      (n.toUInt64.toNat : Int) 0 .positive))) = _
    rw [htoNat, UnpackedFloat.normalize, Int.compare_eq_gt.mpr (by omega)]
    dsimp only
    rw [Int.toNat_natCast, round_whole hpos hn hsignificand]
    exact ofFloat_pack_finite hcanonical hsignificand rfl
  rw [value?, hparts, Parts.value?, Binary.value, show (Binary.whole n).negative = false from rfl,
    if_neg (by decide), one_mul, Binary.whole_value hlog]

theorem natural?_powersOfTen : ∀ e : Fin Float.exactlyRepresentablePowersOfTen.size,
    (Parts.ofFloat Float.exactlyRepresentablePowersOfTen[e]).natural? = some (10 ^ e.val) := by
  decide +kernel

/-- Powers of ten up to the 22nd are doubles. -/
theorem value?_powersOfTen {e : Nat} (he : e < Float.exactlyRepresentablePowersOfTen.size) :
    value? Float.exactlyRepresentablePowersOfTen[e] = some (10 ^ e : ℚ) := by
  have hvalue := (natural?_eq_some_iff _ _).mp (natural?_powersOfTen ⟨e, he⟩)
  push_cast at hvalue
  exact hvalue

/-! ## Decimals -/

/-- What a positive double covers is neither tiny nor huge. -/
theorem Binary.Covers.range (hb : b.IsCanonical) (hpos : 0 < b.significand) {q : ℚ}
    (hq : b.Covers q) : 2 ^ (-1075 : Int) ≤ q ∧ q < 2 ^ (1024 : Int) := by
  obtain ⟨hlow, hhigh⟩ := hq.bounds
  have hbelow := b.below_le
  have hone : (1 : ℚ) ≤ b.significand := by exact_mod_cast hpos
  have hfits : (b.significand : ℚ) + 1 ≤ 2 ^ (53 : Int) := by exact_mod_cast hb.fits
  constructor
  · calc (2 : ℚ) ^ (-1075 : Int) = 1 / 2 * 2 ^ (-1074 : Int) := by
          rw [show (-1075 : Int) = -1 + -1074 by norm_num, zpow_add₀ two_ne_zero]
          norm_num
      _ ≤ (b.significand - b.below) * 2 ^ b.exponent :=
          mul_le_mul (by linarith) (zpow_le_zpow_right₀ one_le_two hb.low) (by positivity)
            (by linarith)
      _ ≤ q := hlow
  · calc q ≤ (b.significand + 1 / 2) * 2 ^ b.exponent := hhigh
      _ < 2 ^ (53 : Int) * 2 ^ b.exponent :=
          mul_lt_mul_of_pos_right (by linarith) (by positivity)
      _ ≤ 2 ^ (53 : Int) * 2 ^ (971 : Int) :=
          mul_le_mul_of_nonneg_left (zpow_le_zpow_right₀ one_le_two hb.high) (by positivity)
      _ = 2 ^ (1024 : Int) := by
          rw [← zpow_add₀ two_ne_zero]
          rfl

/-- A number between the powers of ten that its digits tell. -/
theorem length_toDigits_bounds {c : Nat} (hc : 0 < c) :
    10 ^ ((Nat.toDigits 10 c).length - 1) ≤ c ∧ c < 10 ^ (Nat.toDigits 10 c).length := by
  constructor
  · rcases Nat.lt_or_ge 1 (Nat.toDigits 10 c).length with hlength | hlength
    · refine Nat.le_of_not_lt fun hlt => ?_
      have := (Nat.length_toDigits_le_iff (by decide) (by omega)).mpr hlt
      omega
    · rw [Nat.sub_eq_zero_of_le hlength]
      exact hc
  · exact (Nat.length_toDigits_le_iff (by decide) Nat.length_toDigits_pos).mp le_rfl

/-- A number has no more decimal digits than binary ones. -/
theorem length_toDigits_le_log2 (c : Nat) : (Nat.toDigits 10 c).length ≤ c.log2 + 1 := by
  rw [Nat.length_toDigits_le_iff (by decide) (by omega)]
  exact Nat.lt_log2_self.trans_le (Nat.pow_le_pow_left (by decide) _)

/-- What a positive double covers has its first digit where readers look for it. -/
theorem Binary.Covers.size (hb : b.IsCanonical) (hpos : 0 < b.significand) {c : Nat} {e : Int}
    (hq : b.Covers (c * 10 ^ e)) : 0 < c ∧ -330 ≤ ((Nat.toDigits 10 c).length : Int) + e ∧
      ((Nat.toDigits 10 c).length : Int) + e ≤ 320 := by
  obtain ⟨hlowest, hhighest⟩ := hq.range hb hpos
  have hten : (0 : ℚ) < 10 ^ e := by positivity
  have hc : 0 < c := by
    refine Nat.pos_of_ne_zero fun hzero => ?_
    rw [hzero, Nat.cast_zero, zero_mul] at hlowest
    exact absurd hlowest (not_le.mpr (by positivity))
  -- the powers of ten around the digits are compared with the ends of the range
  obtain ⟨hdigits, hdigits'⟩ := length_toDigits_bounds hc
  generalize (Nat.toDigits 10 c).length = length at hdigits hdigits'
  refine ⟨hc, ?_, ?_⟩
  · have hbelow : (10 : ℚ) ^ (-330 : Int) < 10 ^ ((length : Int) + e) := by
      calc (10 : ℚ) ^ (-330 : Int) ≤ 2 ^ (-1075 : Int) := by
            rw [zpow_neg, zpow_neg]
            refine inv_anti₀ (by positivity) ?_
            exact_mod_cast (by decide +kernel : 2 ^ 1075 ≤ 10 ^ 330)
        _ ≤ c * 10 ^ e := hlowest
        _ < 10 ^ length * 10 ^ e := mul_lt_mul_of_pos_right (by exact_mod_cast hdigits') hten
        _ = 10 ^ ((length : Int) + e) := by rw [zpow_add₀ (by norm_num), zpow_natCast]
    exact ((zpow_lt_zpow_iff_right₀ (by norm_num)).mp hbelow).le
  · have habove : (10 : ℚ) ^ (((length - 1 : Nat) : Int) + e) < 10 ^ (320 : Int) := by
      calc (10 : ℚ) ^ (((length - 1 : Nat) : Int) + e) = 10 ^ (length - 1) * 10 ^ e := by
            rw [zpow_add₀ (by norm_num), zpow_natCast]
        _ ≤ c * 10 ^ e := mul_le_mul_of_nonneg_right (by exact_mod_cast hdigits) hten.le
        _ < 2 ^ (1024 : Int) := hhighest
        _ ≤ 10 ^ (320 : Int) := by exact_mod_cast (by decide +kernel : 2 ^ 1024 ≤ 10 ^ 320)
    have := (zpow_lt_zpow_iff_right₀ (by norm_num)).mp habove
    omega

/-- Decimals are rounded to the double that covers them. -/
theorem ofScientific_of_covers (hb : b.IsCanonical) (hpos : 0 < b.significand) {c : Nat} {e : Int}
    (hq : b.Covers (c * 10 ^ e)) : UnpackedFloat.ofScientific Format.binary64 c e =
      .finite .positive b.significand b.exponent hpos := by
  obtain ⟨hc, hlow, hhigh⟩ := hq.size hb hpos
  have hlog := length_toDigits_le_log2 c
  -- the exponents that are not calculated with belong to zero and infinity
  have hnotLarge : ¬ e > 2 ^ Format.binary64.exponentBits := by
    show ¬ e > 2 ^ 11
    omega
  have hnotSmall : ¬ e < -((2 ^ Format.binary64.exponentBits : Int) + c.log2) := by
    show ¬ e < -(2 ^ 11 + (c.log2 : Int))
    omega
  rw [UnpackedFloat.ofScientific, dif_neg hc.ne', if_neg hnotLarge, if_neg hnotSmall]
  by_cases hwhole : 0 ≤ e
  · -- a product: the digits are followed by zeros first, so that rounding never lacks any
    rw [if_pos hwhole]
    refine mul_of_covers hb hpos _ _ ?_ ?_
    · have hpower : ((10 ^ e.toNat : Nat) : ℚ) = 10 ^ e := by
        rw [Nat.cast_pow, Nat.cast_ofNat, ← zpow_natCast, Int.toNat_of_nonneg hwhole]
      have hshift : ((c <<< Format.binary64.mantissaBits : Nat) : ℚ) *
          2 ^ (-(Format.binary64.mantissaBits : Int)) = c := by
        rw [Nat.shiftLeft_eq, Nat.cast_mul, Nat.cast_pow, Nat.cast_ofNat, zpow_neg, zpow_natCast]
        field_simp
      rw [hshift, hpower, zpow_zero, mul_one]
      exact hq
    · calc 2 ^ 52 ≤ 1 * 2 ^ 53 * 1 := by decide
        _ ≤ c * 2 ^ 53 * 10 ^ e.toNat :=
          Nat.mul_le_mul (Nat.mul_le_mul_right _ hc) (Nat.one_le_pow _ _ (by decide))
        _ = c <<< Format.binary64.mantissaBits * 10 ^ e.toNat := by rw [Nat.shiftLeft_eq]; rfl
  · -- a quotient by a power of ten, which takes as many digits as it needs by itself
    rw [if_neg hwhole]
    refine div_of_covers hb hpos _ _ ?_
    have hpower : ((10 ^ (-e).toNat : Nat) : ℚ) = (10 ^ e)⁻¹ := by
      rw [Nat.cast_pow, Nat.cast_ofNat, ← zpow_natCast, Int.toNat_of_nonneg (by omega), zpow_neg]
    rw [hpower, zpow_zero, mul_one, mul_one, div_inv_eq_mul]
    exact hq

/-- Decimals are read as the double that covers them. -/
theorem ofFloat_ofScientific (hb : b.IsCanonical) (hpos : 0 < b.significand)
    (hsign : b.negative = false) {c : Nat} (small : Bool) {n : Nat}
    (hq : b.Covers (c * 10 ^ (if small then -n else n : Int))) :
    Parts.ofFloat (Float.ofScientific c small n) = .finite b := by
  obtain ⟨hc, -, -⟩ := hq.size hb hpos
  unfold Float.ofScientific
  split
  case isTrue hshort =>
    -- the digits and the power of ten are doubles themselves, so only the operation rounds
    have hx := value?_toFloat hc hshort.1
    have hone : (1 : ℚ) ≤ c := by exact_mod_cast hc
    have hten : (0 : ℚ) < 10 ^ n := by positivity
    have hsize : n < Float.exactlyRepresentablePowersOfTen.size := Nat.lt_succ_of_le hshort.2
    cases small with
    | true =>
        rw [if_pos rfl, zpow_neg, zpow_natCast, ← div_eq_mul_inv] at hq
        exact ofFloat_div hb hpos hsign hx (value?_powersOfTen hsize) (by positivity) hten hq
    | false =>
        rw [if_neg (by decide), zpow_natCast] at hq
        exact ofFloat_mul hb hpos hsign hx (value?_powersOfTen hsize) hone hten hq
  case isFalse hlong =>
    have hexponent : (if small then Int.negOfNat n else Int.ofNat n) =
        (if small then -n else n : Int) := by
      cases small
      · rfl
      · exact Int.negOfNat_eq
    show Parts.ofFloat (.ofModel (.pack (UnpackedFloat.ofScientific Format.binary64 c
      (if small then Int.negOfNat n else Int.ofNat n)))) = _
    rw [hexponent, ofScientific_of_covers hb hpos hq]
    exact ofFloat_pack_finite hb hpos hsign

/-- **Reading decimals.**  A decimal is read as the double that covers it. -/
theorem ofFloat_nearest (hb : b.IsCanonical) (hpos : 0 < b.significand) (hsign : b.negative = false)
    {c : Nat} {e : Int} (hq : b.Covers (c * 10 ^ e)) :
    Parts.ofFloat (nearest c e) = .finite b := by
  obtain ⟨hc, hlow, hhigh⟩ := hq.size hb hpos
  have hinside : ¬(c = 0 ∨ ((Nat.toDigits 10 c).length : Int) + e < -330) := by omega
  rw [nearest]
  simp only [if_neg hinside, if_neg (not_lt.mpr hhigh)]
  split
  case isTrue hnegative =>
    refine ofFloat_ofScientific hb hpos hsign true ?_
    rwa [if_pos rfl, Int.ofNat_natAbs_of_nonpos hnegative.le, neg_neg]
  case isFalse hpositive =>
    refine ofFloat_ofScientific hb hpos hsign false ?_
    rwa [if_neg (by decide), Int.natAbs_of_nonneg (by omega)]

/-! ## Signs -/

/-- No minus sign. -/
def IsUnsigned : UnpackedFloat → Prop
  | .notANumber => True
  | .infinity s => s = .positive
  | .zero s => s = .positive
  | .finite s _ _ _ => s = .positive

theorem negative_of_ofBits {bits : Nat} (hparts : Parts.ofBits bits = .finite b) :
    b.negative = decide (bits / 2 ^ 63 % 2 = 1) := by
  unfold Parts.ofBits at hparts
  dsimp only at hparts
  split at hparts
  · split at hparts <;> cases hparts
  · split at hparts <;> cases hparts <;> rfl

theorem exists_pack_eq {u : UnpackedFloat} (hu : IsUnsigned u) : ∃ scale fraction,
    UnpackedFloat.pack Format.binary64 u =
      packComponents Format.binary64 (signOf false) scale fraction := by
  cases u with
  | notANumber => exact ⟨_, _, rfl⟩
  | infinity s =>
      obtain rfl : s = .positive := hu
      exact ⟨_, _, rfl⟩
  | zero s =>
      obtain rfl : s = .positive := hu
      exact ⟨_, _, rfl⟩
  | finite s m e hm =>
      obtain rfl : s = .positive := hu
      unfold UnpackedFloat.pack
      dsimp only
      split
      · exact ⟨_, _, rfl⟩
      · split
        · exact ⟨_, _, rfl⟩
        · exact ⟨_, _, rfl⟩

theorem not_negative_of_pack {u : UnpackedFloat} (hu : IsUnsigned u)
    (hparts : Parts.ofFloat (.ofModel (.pack u)) = .finite b) : b.negative = false := by
  obtain ⟨scale, fraction, hpack⟩ := exists_pack_eq hu
  obtain ⟨hsign, -, -⟩ := bitsOf_fields false scale.isLt fraction.isLt
  have hbits : Parts.ofBits (UnpackedFloat.pack Format.binary64 u).toNat = .finite b := hparts
  rw [hpack, toNat_packComponents] at hbits
  rw [negative_of_ofBits hbits, hsign]
  rfl

theorem isUnsigned_roundWithAccuracy (m : Nat) (e : Int) (acc : Accuracy) :
    IsUnsigned (roundWithAccuracy Format.binary64 .positive m e acc) := by
  unfold roundWithAccuracy
  dsimp only
  generalize shiftToTargetExponent Format.binary64 _ _ .exact = final
  by_cases hzero : final.1.mantissa = 0
  · rw [dif_pos hzero]
    rfl
  · rw [dif_neg hzero]
    rfl

theorem isUnsigned_ofScientific (c : Nat) (e : Int) :
    IsUnsigned (UnpackedFloat.ofScientific Format.binary64 c e) := by
  unfold UnpackedFloat.ofScientific
  by_cases hzero : c = 0
  · rw [dif_pos hzero]
    rfl
  rw [dif_neg hzero]
  refine iteInduction (motive := IsUnsigned) (fun _ => rfl) fun _ => ?_
  refine iteInduction (motive := IsUnsigned) (fun _ => rfl) fun _ => ?_
  exact iteInduction (motive := IsUnsigned) (fun _ => isUnsigned_roundWithAccuracy _ _ _)
    fun _ => isUnsigned_roundWithAccuracy _ _ _

theorem exists_ofScientific_eq {c : Nat} (hc : 0 < c) (small : Bool) (n : Nat) :
    ∃ u, IsUnsigned u ∧ Float.ofScientific c small n = .ofModel (.pack u) := by
  unfold Float.ofScientific
  split
  case isTrue hshort =>
    have hsize : n < Float.exactlyRepresentablePowersOfTen.size := Nat.lt_succ_of_le hshort.2
    obtain ⟨m₁, e₁, h₁, hunpack₁, -⟩ :=
      exists_unpack_eq (value?_toFloat hc hshort.1) (by exact_mod_cast hc)
    obtain ⟨m₂, e₂, h₂, hunpack₂, -⟩ :=
      exists_unpack_eq (value?_powersOfTen hsize) (by positivity)
    cases small with
    | true =>
        refine ⟨UnpackedFloat.div Format.binary64 (.finite .positive m₁ e₁ h₁)
          (.finite .positive m₂ e₂ h₂), isUnsigned_roundWithAccuracy _ _ _, ?_⟩
        rw [← hunpack₁, ← hunpack₂]
        rfl
    | false =>
        refine ⟨UnpackedFloat.mul Format.binary64 (.finite .positive m₁ e₁ h₁)
          (.finite .positive m₂ e₂ h₂), isUnsigned_roundWithAccuracy _ _ _, ?_⟩
        rw [← hunpack₁, ← hunpack₂]
        rfl
  case isFalse => exact ⟨_, isUnsigned_ofScientific _ _, rfl⟩

theorem ofFloat_zero : Parts.ofFloat 0.0 = .finite ⟨false, 0, -1074⟩ := by decide +kernel

theorem ofFloat_infinity : Parts.ofFloat (1.0 / 0.0) = .infinite false := by decide +kernel

theorem ofFloat_notANumber : Parts.ofFloat (0.0 / 0.0) = .notANumber := by decide +kernel

/-- Digits are never read as a negative number. -/
theorem not_negative_of_nearest {c : Nat} {e : Int}
    (hparts : Parts.ofFloat (nearest c e) = .finite b) : b.negative = false := by
  unfold nearest at hparts
  dsimp only at hparts
  split at hparts
  · rw [ofFloat_zero] at hparts
    cases hparts
    rfl
  next hinside =>
  have hc : 0 < c := Nat.pos_of_ne_zero fun hc => hinside (.inl hc)
  split at hparts
  · rw [ofFloat_infinity] at hparts
    cases hparts
  split at hparts
  · obtain ⟨u, hu, hpack⟩ := exists_ofScientific_eq hc true e.natAbs
    rw [hpack] at hparts
    exact not_negative_of_pack hu hparts
  · obtain ⟨u, hu, hpack⟩ := exists_ofScientific_eq hc false e.natAbs
    rw [hpack] at hparts
    exact not_negative_of_pack hu hparts

/-- A text without a minus sign is never read as a negative number. -/
theorem not_negative_of_readFloat? {cs : List Char} {x : Float} (hread : readFloat? cs = some x)
    (hminus : '-' ∉ cs) (hparts : Parts.ofFloat x = .finite b) : b.negative = false := by
  have hsign : (splitSign cs).1 = false := by
    unfold splitSign
    split
    · exact absurd List.mem_cons_self hminus
    · rfl
    · rfl
  rw [readFloat?] at hread
  generalize splitSign cs = split at hsign hread
  obtain ⟨negative, body⟩ := split
  obtain rfl : negative = false := hsign
  simp only [Bool.false_eq_true, if_false] at hread
  split at hread
  · cases hread
    rw [ofFloat_notANumber] at hparts
    cases hparts
  split at hread
  · cases hread
    rw [ofFloat_infinity] at hparts
    cases hparts
  split at hread
  · cases hread
    rw [ofFloat_infinity] at hparts
    cases hparts
  obtain ⟨size, hsize, hx⟩ := Option.bind_eq_some_iff.mp hread
  obtain rfl : size = x := Option.some_inj.mp hx
  obtain ⟨coefficient, -, hsize⟩ := Option.bind_eq_some_iff.mp hsize
  obtain ⟨power, -, hsize⟩ := Option.bind_eq_some_iff.mp hsize
  cases hsize
  exact not_negative_of_nearest hparts

end Screener.Decimal
