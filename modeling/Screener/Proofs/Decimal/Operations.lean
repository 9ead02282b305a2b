import Screener.Proofs.Decimal.Packed

/-!
# Products and quotients of doubles

An operation on positive doubles calculates with their digits and rounds once: the result is the double
that covers the exact product (`Decimal.ofFloat_mul`) or the exact quotient (`Decimal.ofFloat_div`).
-/

namespace Screener.Decimal

open Float.Model UnpackedFloat

variable {b : Binary} {m₁ m₂ : Nat} {e₁ e₂ : Int}

/-! ## Products -/

theorem mul_of_covers (hb : b.IsCanonical) (hpos : 0 < b.significand) (h₁ : 0 < m₁) (h₂ : 0 < m₂)
    (hq : b.Covers ((m₁ * 2 ^ e₁) * (m₂ * 2 ^ e₂))) (hbits : 2 ^ 52 ≤ m₁ * m₂) :
    UnpackedFloat.mul Format.binary64 (.finite .positive m₁ e₁ h₁) (.finite .positive m₂ e₂ h₂) =
      .finite .positive b.significand b.exponent hpos := by
  have hexact : (m₁ * 2 ^ e₁) * (m₂ * 2 ^ e₂) / (2 : ℚ) ^ (e₁ + e₂) = (m₁ * m₂ : Nat) := by
    rw [div_eq_iff (by positivity), zpow_add₀ two_ne_zero]
    push_cast
    ring
  refine roundWithAccuracy_of_covers hb hpos hq .positive ?_ (.inl ?_)
  · rw [hexact]
    exact approximates_exact _
  · exact (Nat.le_log2 (by omega)).mpr hbits

/-! ## Quotients -/

/-- Where the digits of a quotient end. -/
def quotientEnd (m₁ : Nat) (e₁ : Int) (m₂ : Nat) (e₂ : Int) : Int :=
  min (e₁ - e₂) (max ((m₁.log2 + e₁) - (m₂.log2 + e₂) - 53) (-1074))

theorem divCore_eq (m₁ : Nat) (e₁ : Int) (m₂ : Nat) (e₂ : Int) :
    divCore Format.binary64 m₁ e₁ m₂ e₂ =
      let m := m₁ * 2 ^ (e₁ - e₂ - quotientEnd m₁ e₁ m₂ e₂).toNat
      (m / m₂, quotientEnd m₁ e₁ m₂ e₂, accuracyOfFraction (m % m₂) m₂) := by
  have hend : min (e₁ - e₂) (Format.binary64.targetExponent
      (totalExponent m₁ e₁ - totalExponent m₂ e₂)) = quotientEnd m₁ e₁ m₂ e₂ := by
    rw [targetExponent_binary64, totalExponent, totalExponent, quotientEnd]
    congr 2
    omega
  rw [divCore, hend]
  simp only [Nat.shiftLeft_eq]

/-- A quotient has 53 digits, or goes down to the last digit that doubles have. -/
theorem quotient_bits (e₁ e₂ : Int) (h₁ : 0 < m₁) (h₂ : 0 < m₂) :
    52 ≤ (m₁ * 2 ^ (e₁ - e₂ - quotientEnd m₁ e₁ m₂ e₂).toNat / m₂).log2 ∨
      quotientEnd m₁ e₁ m₂ e₂ ≤ -1074 := by
  by_cases hlow : quotientEnd m₁ e₁ m₂ e₂ ≤ -1074
  · exact .inr hlow
  · -- the end was chosen for the 53 digits, so the dividend is that much longer than the divisor
    have hshift : m₂.log2 + 1 + 52 ≤ m₁.log2 + (e₁ - e₂ - quotientEnd m₁ e₁ m₂ e₂).toNat := by
      unfold quotientEnd at hlow ⊢
      omega
    have hm : 2 ^ 52 ≤ m₁ * 2 ^ (e₁ - e₂ - quotientEnd m₁ e₁ m₂ e₂).toNat / m₂ := by
      rw [Nat.le_div_iff_mul_le h₂]
      calc 2 ^ 52 * m₂ ≤ 2 ^ 52 * 2 ^ (m₂.log2 + 1) := Nat.mul_le_mul_left _ Nat.lt_log2_self.le
        _ = 2 ^ (m₂.log2 + 1 + 52) := by rw [← pow_add, Nat.add_comm]
        _ ≤ 2 ^ (m₁.log2 + (e₁ - e₂ - quotientEnd m₁ e₁ m₂ e₂).toNat) :=
          Nat.pow_le_pow_right (by decide) hshift
        _ = 2 ^ m₁.log2 * 2 ^ (e₁ - e₂ - quotientEnd m₁ e₁ m₂ e₂).toNat := pow_add ..
        _ ≤ _ := Nat.mul_le_mul_right _ (Nat.log2_self_le h₁.ne')
    refine .inl ((Nat.le_log2 ?_).mpr hm)
    exact (hm.trans_lt' (by decide)).ne'

theorem div_of_covers (hb : b.IsCanonical) (hpos : 0 < b.significand) (h₁ : 0 < m₁) (h₂ : 0 < m₂)
    (hq : b.Covers ((m₁ * 2 ^ e₁) / (m₂ * 2 ^ e₂))) :
    UnpackedFloat.div Format.binary64 (.finite .positive m₁ e₁ h₁) (.finite .positive m₂ e₂ h₂) =
      .finite .positive b.significand b.exponent hpos := by
  have hend : quotientEnd m₁ e₁ m₂ e₂ ≤ e₁ - e₂ := min_le_left _ _
  have hbits := quotient_bits e₁ e₂ h₁ h₂
  show (let (m, e, acc) := divCore Format.binary64 m₁ e₁ m₂ e₂
    roundWithAccuracy Format.binary64 .positive m e acc) = _
  rw [divCore_eq]
  generalize quotientEnd m₁ e₁ m₂ e₂ = e at hend hbits
  obtain ⟨shift, hshift⟩ := Int.le.dest hend
  have hexponent : e₁ - e₂ - e = shift := by omega
  have hm₂ : (m₂ : ℚ) ≠ 0 := by exact_mod_cast h₂.ne'
  rw [hexponent, Int.toNat_natCast] at hbits ⊢
  -- the quotient is its whole part and a fraction of the divisor
  have hparts : (m₁ * 2 ^ e₁) / (m₂ * 2 ^ e₂) / (2 : ℚ) ^ e =
      (m₁ * 2 ^ shift / m₂ : Nat) + (m₁ * 2 ^ shift % m₂ : Nat) / m₂ := by
    have hdivision : ((m₁ * 2 ^ shift : Nat) : ℚ) =
        m₂ * (m₁ * 2 ^ shift / m₂ : Nat) + (m₁ * 2 ^ shift % m₂ : Nat) := by
      exact_mod_cast (Nat.div_add_mod _ _).symm
    have hscale : (2 : ℚ) ^ e₁ = 2 ^ shift * 2 ^ e₂ * 2 ^ e := by
      rw [← zpow_natCast, ← zpow_add₀ two_ne_zero, ← zpow_add₀ two_ne_zero]
      congr 1
      omega
    push_cast at hdivision
    rw [hscale]
    field_simp
    linarith
  refine roundWithAccuracy_of_covers hb hpos hq .positive ?_ hbits
  rw [hparts]
  exact approximates_fraction _ (Nat.mod_lt _ h₂)

/-! ## Doubles -/

/-- What rounds to a positive double is packed into it. -/
theorem ofFloat_pack_finite (hb : b.IsCanonical) (hpos : 0 < b.significand)
    (hsign : b.negative = false) :
    Parts.ofFloat (.ofModel (Float.Model.pack (.finite .positive b.significand b.exponent hpos))) =
      .finite b := by
  have hunpacked : b.unpacked = .finite .positive b.significand b.exponent hpos := by
    rw [Binary.unpacked, dif_neg hpos.ne', hsign]
    rfl
  rw [← hunpacked]
  exact ofFloat_pack hb

/-- A positive double as operations unpack it. -/
theorem exists_unpack_eq {x : Float} {q : ℚ} (hx : value? x = some q) (hq : 0 < q) :
    ∃ m e, ∃ hm : 0 < m, x.toModel.unpack = .finite .positive m e hm ∧ m * 2 ^ e = q ∧
      (1 ≤ q → 2 ^ 52 ≤ m) := by
  unfold value? at hx
  cases hparts : Parts.ofFloat x with
  | infinite negative => rw [hparts] at hx; cases hx
  | notANumber => rw [hparts] at hx; cases hx
  | finite b =>
      rw [hparts] at hx
      have hvalue : b.value = q := Option.some_inj.mp hx
      obtain ⟨hfits, -, -, hfull⟩ := isCanonical_of_ofFloat hparts
      have hunit : (0 : ℚ) < 2 ^ b.exponent := by positivity
      have hsign : b.negative = false := by
        -- with a minus sign it would not be positive
        by_contra hnegative
        rw [Binary.value, if_pos (by simpa using hnegative)] at hvalue
        have : (0 : ℚ) ≤ b.significand * 2 ^ b.exponent := by positivity
        linarith
      rw [Binary.value, hsign, if_neg (by decide), one_mul] at hvalue
      have hpos : 0 < b.significand := by
        refine Nat.pos_of_ne_zero fun hzero => hq.ne ?_
        rw [← hvalue, hzero, Nat.cast_zero, zero_mul]
      refine ⟨b.significand, b.exponent, hpos, ?_, hvalue, fun hone => hfull.resolve_left ?_⟩
      · rw [unpack_eq hparts, Binary.unpacked, dif_neg hpos.ne', hsign]
        rfl
      · -- with the least exponent it would be below one
        intro hlow
        have hsmall : (b.significand : ℚ) < 2 ^ 53 := by exact_mod_cast hfits
        have hlt : q < 2 ^ 53 * 2 ^ (-1074 : Int) := by
          rw [← hvalue, hlow]
          exact mul_lt_mul_of_pos_right hsmall (by positivity)
        have : (2 : ℚ) ^ 53 * 2 ^ (-1074 : Int) ≤ 1 := by
          rw [← zpow_natCast, ← zpow_add₀ two_ne_zero]
          exact zpow_le_one_of_nonpos₀ (by norm_num) (by norm_num)
        linarith

variable {x y : Float} {q₁ q₂ : ℚ}

/-- A product of positive doubles is rounded once. -/
theorem ofFloat_mul (hb : b.IsCanonical) (hpos : 0 < b.significand) (hsign : b.negative = false)
    (hx : value? x = some q₁) (hy : value? y = some q₂) (hq₁ : 1 ≤ q₁) (hq₂ : 0 < q₂)
    (hq : b.Covers (q₁ * q₂)) : Parts.ofFloat (x * y) = .finite b := by
  obtain ⟨m₁, e₁, h₁, hunpack₁, hvalue₁, hfull⟩ := exists_unpack_eq hx (one_pos.trans_le hq₁)
  obtain ⟨m₂, e₂, h₂, hunpack₂, hvalue₂, -⟩ := exists_unpack_eq hy hq₂
  rw [← hvalue₁, ← hvalue₂] at hq
  show Parts.ofFloat (.ofModel (.pack (UnpackedFloat.mul Format.binary64 x.toModel.unpack
    y.toModel.unpack))) = _
  rw [hunpack₁, hunpack₂,
    mul_of_covers hb hpos h₁ h₂ hq ((hfull hq₁).trans (Nat.le_mul_of_pos_right _ h₂))]
  exact ofFloat_pack_finite hb hpos hsign

/-- A quotient of positive doubles is rounded once. -/
theorem ofFloat_div (hb : b.IsCanonical) (hpos : 0 < b.significand) (hsign : b.negative = false)
    (hx : value? x = some q₁) (hy : value? y = some q₂) (hq₁ : 0 < q₁) (hq₂ : 0 < q₂)
    (hq : b.Covers (q₁ / q₂)) : Parts.ofFloat (x / y) = .finite b := by
  obtain ⟨m₁, e₁, h₁, hunpack₁, hvalue₁, -⟩ := exists_unpack_eq hx hq₁
  obtain ⟨m₂, e₂, h₂, hunpack₂, hvalue₂, -⟩ := exists_unpack_eq hy hq₂
  rw [← hvalue₁, ← hvalue₂] at hq
  show Parts.ofFloat (.ofModel (.pack (UnpackedFloat.div Format.binary64 x.toModel.unpack
    y.toModel.unpack))) = _
  rw [hunpack₁, hunpack₂, div_of_covers hb hpos h₁ h₂ hq]
  exact ofFloat_pack_finite hb hpos hsign

end Screener.Decimal
