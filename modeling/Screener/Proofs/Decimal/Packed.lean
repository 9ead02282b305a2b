import Screener.Proofs.Decimal.Rounding
import Screener.Proofs.Decimal.Value

/-!
# Doubles and their parts

The parts of a finite double determine it (`Decimal.eq_of_parts`), and they are what the operations on
doubles unpack (`Decimal.unpack_eq`) and pack again (`Decimal.ofFloat_pack`): a minus sign turns the sign
among them (`Decimal.ofFloat_neg`).
-/

namespace Screener.Decimal

open Float.Model UnpackedFloat

/-- The sign of a number. -/
def signOf (negative : Bool) : Sign := if negative then .negative else .positive

/-- The parts of a finite double as operations unpack them. -/
def Binary.unpacked (b : Binary) : UnpackedFloat :=
  if h : b.significand = 0 then .zero (signOf b.negative)
  else .finite (signOf b.negative) b.significand b.exponent (Nat.pos_of_ne_zero h)

/-! ## The bits of a double -/

/-- A sign bit, eleven bits of the exponent and 52 of the fraction as one number. -/
def bitsOf (negative : Bool) (scale fraction : Nat) : Nat :=
  (if negative then 2 ^ 63 else 0) + scale * 2 ^ 52 + fraction

theorem toNat_packComponents (negative : Bool) (scale : BitVec 11) (fraction : BitVec 52) :
    (packComponents Format.binary64 (signOf negative) scale fraction).toNat =
      bitsOf negative scale.toNat fraction.toNat := by
  unfold packComponents
  rw [BitVec.toNat_append, BitVec.toNat_append, ← Nat.shiftLeft_add_eq_or_of_lt scale.isLt,
    ← Nat.shiftLeft_add_eq_or_of_lt fraction.isLt, Nat.shiftLeft_eq, Nat.shiftLeft_eq, bitsOf]
  cases negative with
  | false => simp [signOf, Sign.toBitVec]
  | true =>
      simp only [signOf, Sign.toBitVec, if_true, BitVec.toNat_one (by decide : 0 < 1)]
      omega

/-- The fields of a number of bits. -/
theorem bitsOf_fields (negative : Bool) {scale fraction : Nat} (hscale : scale < 2 ^ 11)
    (hfraction : fraction < 2 ^ 52) :
    bitsOf negative scale fraction / 2 ^ 63 % 2 = (if negative then 1 else 0) ∧
      bitsOf negative scale fraction / 2 ^ 52 % 2 ^ 11 = scale ∧
      bitsOf negative scale fraction % 2 ^ 52 = fraction := by
  unfold bitsOf
  cases negative <;> simp only [Bool.false_eq_true, if_true, if_false] <;> omega

theorem ofBits_bitsOf (negative : Bool) {scale fraction : Nat} (hscale : scale < 2047)
    (hfraction : fraction < 2 ^ 52) : Parts.ofBits (bitsOf negative scale fraction) =
      if scale = 0 then .finite ⟨negative, fraction, -1074⟩
      else .finite ⟨negative, 2 ^ 52 + fraction, (scale : Int) - 1075⟩ := by
  obtain ⟨hsign, hfield, hrest⟩ := bitsOf_fields negative (by omega : scale < 2 ^ 11) hfraction
  have hnegative : decide (bitsOf negative scale fraction / powerOfTwo 63 % 2 = 1) = negative := by
    show decide (bitsOf negative scale fraction / 2 ^ 63 % 2 = 1) = negative
    rw [hsign]
    cases negative <;> rfl
  have hfield : bitsOf negative scale fraction / powerOfTwo 52 % powerOfTwo 11 = scale := hfield
  have hrest : bitsOf negative scale fraction % powerOfTwo 52 = fraction := hrest
  unfold Parts.ofBits
  simp only [hnegative, hfield, hrest, if_neg hscale.ne]
  rfl

/-- Every finite double has such bits. -/
theorem exists_bitsOf {bits : Nat} (hbits : bits < 2 ^ 64) {b : Binary}
    (hparts : Parts.ofBits bits = .finite b) : ∃ scale fraction, scale < 2047 ∧ fraction < 2 ^ 52 ∧
      bits = bitsOf b.negative scale fraction ∧
      b = if scale = 0 then ⟨b.negative, fraction, -1074⟩
        else ⟨b.negative, 2 ^ 52 + fraction, (scale : Int) - 1075⟩ := by
  have hsplit : bits = bitsOf (decide (bits / 2 ^ 63 % 2 = 1)) (bits / 2 ^ 52 % 2 ^ 11)
      (bits % 2 ^ 52) := by
    unfold bitsOf
    by_cases hsign : bits / 2 ^ 63 % 2 = 1
    · simp only [hsign, decide_true, if_true]
      omega
    · simp only [hsign, decide_false, Bool.false_eq_true, if_false]
      omega
  generalize decide (bits / 2 ^ 63 % 2 = 1) = negative at hsplit
  have hfraction : bits % 2 ^ 52 < 2 ^ 52 := Nat.mod_lt _ (by decide)
  have hscale : bits / 2 ^ 52 % 2 ^ 11 < 2047 := by
    have hfinite : bits / 2 ^ 52 % 2 ^ 11 ≠ 2047 :=
      (Parts.isSome_value?_ofBits bits).mp (by rw [hparts]; rfl)
    omega
  generalize bits / 2 ^ 52 % 2 ^ 11 = scale at hsplit hscale
  generalize bits % 2 ^ 52 = fraction at hsplit hfraction
  subst hsplit
  rw [ofBits_bitsOf negative hscale hfraction] at hparts
  refine ⟨scale, fraction, hscale, hfraction, ?_⟩
  split at hparts
  case isTrue hzero =>
    cases hparts
    exact ⟨rfl, by rw [if_pos hzero]⟩
  case isFalse hnormal =>
    cases hparts
    exact ⟨rfl, by rw [if_neg hnormal]⟩

/-! ## Packing and unpacking -/

/-- A significand of 53 digits is packed with its exponent and without its first digit, a shorter one
with a zero for the exponent. -/
theorem toNat_pack_finite (negative : Bool) {significand : Nat} {exponent : Int}
    (hfits : significand < 2 ^ 53) (hlow : -1074 ≤ exponent) (hhigh : exponent ≤ 971)
    (hpos : 0 < significand) :
    (UnpackedFloat.pack Format.binary64
      (.finite (signOf negative) significand exponent hpos)).toNat =
        if 2 ^ 52 ≤ significand then
          bitsOf negative (exponent + 1075).toNat (significand - 2 ^ 52)
        else bitsOf negative 0 significand := by
  have hbiased : exponent + ((Format.binary64.exponentBias : Nat) : Int) +
      ((Format.binary64.mantissaBitsWithoutImplicit : Nat) : Int) = exponent + 1075 := by
    have hbias : Format.binary64.exponentBias = 1023 := rfl
    rw [hbias]
    push_cast
    omega
  have hroom : ¬ 2 ^ Format.binary64.exponentBits ≤ (exponent + 1075).toNat + 1 := by
    show ¬ 2 ^ 11 ≤ _
    omega
  have hfull : 52 ≤ significand.log2 ↔ 2 ^ 52 ≤ significand := Nat.le_log2 hpos.ne'
  have hlog : significand.log2 < 53 := (Nat.log2_lt hpos.ne').mpr hfits
  have hmantissa : Format.binary64.mantissaBits = 53 := rfl
  unfold UnpackedFloat.pack
  dsimp only
  rw [hbiased, if_neg hroom]
  split
  case isTrue hdigits =>
    rw [hmantissa] at hdigits
    have hnormal : 2 ^ 52 ≤ significand := hfull.mp (by omega)
    have hscale : (BitVec.ofNat 11 (exponent + 1075).toNat).toNat = (exponent + 1075).toNat := by
      rw [BitVec.toNat_ofNat]
      omega
    have hfraction : (BitVec.ofNat 52 significand).toNat = significand - 2 ^ 52 := by
      rw [BitVec.toNat_ofNat]
      omega
    rw [if_pos hnormal, toNat_packComponents, hscale, hfraction]
  case isFalse hdigits =>
    rw [hmantissa] at hdigits
    have hsubnormal : ¬ 2 ^ 52 ≤ significand := mt hfull.mpr (by omega)
    have hfraction : (BitVec.ofNat 52 significand).toNat = significand := by
      rw [BitVec.toNat_ofNat]
      omega
    rw [if_neg hsubnormal, toNat_packComponents, hfraction]
    rfl

/-- Packing keeps the parts of a finite double. -/
theorem ofFloat_pack {b : Binary} (hb : b.IsCanonical) :
    Parts.ofFloat (Float.ofModel (Float.Model.pack b.unpacked)) = .finite b := by
  show Parts.ofBits (UnpackedFloat.pack Format.binary64 b.unpacked).toNat = .finite b
  obtain ⟨negative, significand, exponent⟩ := b
  obtain ⟨hfits, hlow, hhigh, hfull⟩ := hb
  dsimp only at hfits hlow hhigh hfull
  unfold Binary.unpacked
  dsimp only
  by_cases hzero : significand = 0
  · have hexponent : exponent = -1074 := hfull.resolve_right (by omega)
    have hbits : (UnpackedFloat.pack Format.binary64 (.zero (signOf negative))).toNat =
        bitsOf negative 0 0 := toNat_packComponents negative 0 0
    rw [dif_pos hzero, hzero, hexponent, hbits, ofBits_bitsOf negative (by decide) (by decide),
      if_pos rfl]
  · rw [dif_neg hzero, toNat_pack_finite negative hfits hlow hhigh]
    split
    case isTrue hnormal =>
      rw [ofBits_bitsOf negative (by omega) (by omega), if_neg (by omega),
        Nat.add_sub_cancel' hnormal, Int.toNat_of_nonneg (by omega), Int.add_sub_cancel]
    case isFalse hsubnormal =>
      rw [ofBits_bitsOf negative (by decide) (by omega), if_pos rfl,
        hfull.resolve_right hsubnormal]

variable {x y : Float} {b : Binary}

theorem exists_parts (hx : x.isFinite = true) : ∃ b, Parts.ofFloat x = .finite b := by
  have hvalue := (isSome_value?_iff x).mpr hx
  unfold value? at hvalue
  cases hparts : Parts.ofFloat x with
  | finite b => exact ⟨b, rfl⟩
  | infinite negative =>
      rw [hparts] at hvalue
      cases hvalue
  | notANumber =>
      rw [hparts] at hvalue
      cases hvalue

/-- Finite doubles are kept in their canonical form. -/
theorem isCanonical_of_ofFloat (hx : Parts.ofFloat x = .finite b) : b.IsCanonical := by
  obtain ⟨scale, fraction, hscale, hfraction, -, hb⟩ := exists_bitsOf x.toBits.toNat_lt hx
  split at hb
  case isTrue hzero =>
    rw [hb]
    exact ⟨hfraction.trans (by decide), le_rfl, (by decide : (-1074 : Int) ≤ 971), .inl rfl⟩
  case isFalse hnormal =>
    rw [hb]
    refine ⟨?_, ?_, ?_, .inr ?_⟩ <;> dsimp only <;> omega

/-- The parts of a finite double determine it. -/
theorem eq_of_parts (hx : Parts.ofFloat x = .finite b) (hy : Parts.ofFloat y = .finite b) :
    x = y := by
  obtain ⟨scale, fraction, hscale, hfraction, hbits, hb⟩ := exists_bitsOf x.toBits.toNat_lt hx
  obtain ⟨scale', fraction', hscale', hfraction', hbits', hb'⟩ := exists_bitsOf y.toBits.toNat_lt hy
  -- the digit that is not kept tells the doubles with the least exponent from the others
  have heq : scale = scale' ∧ fraction = fraction' := by
    rw [hb] at hb'
    split at hb' <;> split at hb' <;> simp only [Binary.mk.injEq] at hb' <;> omega
  obtain ⟨⟨xbits, hxvalid⟩⟩ := x
  obtain ⟨⟨ybits, hyvalid⟩⟩ := y
  have : xbits = ybits := by
    rw [← UInt64.toNat_inj]
    calc xbits.toNat = bitsOf b.negative scale fraction := hbits
      _ = bitsOf b.negative scale' fraction' := by rw [heq.1, heq.2]
      _ = ybits.toNat := hbits'.symm
  subst this
  rfl

theorem unpackSign_packComponents (negative : Bool) (scale : BitVec 11) (fraction : BitVec 52) :
    Sign.ofBitVec (unpackSign (packComponents Format.binary64 (signOf negative) scale fraction)) =
      signOf negative := by
  obtain ⟨hsign, -, -⟩ := bitsOf_fields negative scale.isLt fraction.isLt
  have hbit : (unpackSign (packComponents Format.binary64 (signOf negative) scale fraction)).toNat =
      if negative then 1 else 0 := by
    rw [← hsign, ← toNat_packComponents]
    unfold unpackSign
    simp [BitVec.extractLsb_toNat, Nat.shiftRight_eq_div_pow]
  unfold Sign.ofBitVec
  cases negative with
  | false => exact if_pos (BitVec.toNat_inj.mp hbit)
  | true => exact if_neg fun hzero => by simp [hzero] at hbit

theorem toNat_one_append (fraction : BitVec 52) :
    (1#1 ++ fraction).toNat = 2 ^ 52 + fraction.toNat := by
  rw [BitVec.toNat_append, ← Nat.shiftLeft_add_eq_or_of_lt fraction.isLt]
  rfl

theorem finite_congr {s s' : Sign} {m m' : Nat} {e e' : Int} (hs : s = s') (hm : m = m')
    (he : e = e') (hpos : 0 < m) (hpos' : 0 < m') :
    UnpackedFloat.finite s m e hpos = .finite s' m' e' hpos' := by
  subst hs hm he
  rfl

/-- Finite bits as they are unpacked. -/
theorem unpack_of_fields {bits : BitVec 64} {sign : Sign} {scale fraction : Nat}
    (hsign : Sign.ofBitVec (@unpackSign Format.binary64 bits) = sign)
    (hscale : (@unpackExponent Format.binary64 bits).toNat = scale)
    (hfraction : (@unpackMantissa Format.binary64 bits).toNat = fraction) (hfinite : scale < 2047) :
    UnpackedFloat.unpack Format.binary64 bits =
      if scale = 0 then
        if h : fraction = 0 then .zero sign
        else .finite sign fraction (-1074) (Nat.pos_of_ne_zero h)
      else .finite sign (2 ^ 52 + fraction) (scale - 1075) (by omega) := by
  have hbias : ((Format.binary64.exponentBias : Nat) : Int) +
      ((Format.binary64.mantissaBitsWithoutImplicit : Nat) : Int) = 1075 := rfl
  have hnotInfinite : @unpackExponent Format.binary64 bits ≠ -1#11 := by
    rw [ne_eq, ← BitVec.toNat_inj, hscale]
    exact hfinite.ne
  have hzeroScale : @unpackExponent Format.binary64 bits = 0#11 ↔ scale = 0 := by
    rw [← BitVec.toNat_inj, hscale, BitVec.toNat_zero]
  have hzeroFraction : @unpackMantissa Format.binary64 bits = 0#52 ↔ fraction = 0 := by
    rw [← BitVec.toNat_inj, hfraction, BitVec.toNat_zero]
  unfold UnpackedFloat.unpack
  dsimp only
  rw [if_neg hnotInfinite]
  by_cases hzero : scale = 0
  · rw [if_pos (hzeroScale.mpr hzero), if_pos hzero]
    by_cases hnone : fraction = 0
    · rw [dif_pos (hzeroFraction.mpr hnone), dif_pos hnone, hsign]
    · rw [dif_neg (mt hzeroFraction.mp hnone), dif_neg hnone]
      refine finite_congr hsign hfraction ?_ _ _
      rw [hscale, hzero, hbias]
      decide
  · rw [if_neg (mt hzeroScale.mp hzero), if_neg hzero]
    refine finite_congr hsign ?_ ?_ _ _
    · rw [toNat_one_append, hfraction]
    · rw [hscale, hbias]

/-- The parts of a finite double are what operations unpack. -/
theorem unpack_eq (hx : Parts.ofFloat x = .finite b) : x.toModel.unpack = b.unpacked := by
  obtain ⟨scale, fraction, hscale, hfraction, hbits, hb⟩ := exists_bitsOf x.toBits.toNat_lt hx
  have hpacked : x.toBits.toBitVec = packComponents Format.binary64 (signOf b.negative)
      (BitVec.ofNat 11 scale) (BitVec.ofNat 52 fraction) := by
    rw [← BitVec.toNat_inj, toNat_packComponents, BitVec.toNat_ofNat, BitVec.toNat_ofNat,
      Nat.mod_eq_of_lt (by omega), Nat.mod_eq_of_lt hfraction]
    exact hbits
  have hscaleBits : (@unpackExponent Format.binary64 x.toBits.toBitVec).toNat = scale := by
    rw [hpacked, unpackExponent_packComponents, BitVec.toNat_ofNat]
    exact Nat.mod_eq_of_lt (by omega : scale < 2 ^ 11)
  have hfractionBits : (@unpackMantissa Format.binary64 x.toBits.toBitVec).toNat = fraction := by
    rw [hpacked, unpackMantissa_packComponents, BitVec.toNat_ofNat]
    exact Nat.mod_eq_of_lt hfraction
  have hsign : Sign.ofBitVec (@unpackSign Format.binary64 x.toBits.toBitVec) =
      signOf b.negative := by
    rw [hpacked]
    exact unpackSign_packComponents _ _ _
  show UnpackedFloat.unpack Format.binary64 x.toBits.toBitVec = b.unpacked
  rw [unpack_of_fields hsign hscaleBits hfractionBits hscale, Binary.unpacked]
  split at hb
  case isTrue hzero =>
    have hsignificand : b.significand = fraction := by rw [hb]
    have hexponent : b.exponent = -1074 := by rw [hb]
    rw [if_pos hzero]
    by_cases hnone : fraction = 0
    · rw [dif_pos hnone, dif_pos (hsignificand.trans hnone)]
    · rw [dif_neg hnone, dif_neg (hsignificand ▸ hnone)]
      exact finite_congr rfl hsignificand.symm hexponent.symm _ _
  case isFalse hnormal =>
    have hsignificand : b.significand = 2 ^ 52 + fraction := by rw [hb]
    have hexponent : b.exponent = scale - 1075 := by rw [hb]
    rw [if_neg hnormal, dif_neg (by omega)]
    exact finite_congr rfl hsignificand.symm hexponent.symm _ _

/-- A minus sign turns the sign of a finite double, zero included, and keeps the rest. -/
theorem ofFloat_neg (hx : Parts.ofFloat x = .finite b) :
    Parts.ofFloat (-x) = .finite { b with negative := !b.negative } := by
  have hb := isCanonical_of_ofFloat hx
  have hneg : b.unpacked.neg = Binary.unpacked { b with negative := !b.negative } := by
    unfold Binary.unpacked
    by_cases hzero : b.significand = 0
    · rw [dif_pos hzero, dif_pos hzero]
      cases b.negative <;> rfl
    · rw [dif_neg hzero, dif_neg hzero]
      cases b.negative <;> rfl
  show Parts.ofFloat (.ofModel (Float.Model.pack x.toModel.unpack.neg)) = _
  rw [unpack_eq hx, hneg]
  exact ofFloat_pack ⟨hb.fits, hb.low, hb.high, hb.full⟩

end Screener.Decimal
