import Screener.Proofs.Decimal.NonFinite

/-!
# Comparing doubles

Two doubles are in some order unless one of them is undefined, and compared the other way round they
are in the opposite order.  So a double is either at most another one or greater, unless one of the two
is undefined; then it is neither (`Decimal.gt_iff_not_le`, `Decimal.neither_of_isNaN`).

The difference of two doubles is undefined if one of them is, or if both are the same infinity, and
only then (`Decimal.isNaN_sub_iff`).
-/

namespace Screener.Decimal

open Float.Model Float.Model.UnpackedFloat

/-! ## Order -/

theorem compare_sign_swap (s t : Sign) : compare t s = (compare s t).swap := by
  cases s <;> cases t <;> rfl

theorem compare_finite_swap (e e' : Int) (m m' : Nat) :
    (compare e' e).then (compare m' m) = ((compare e e').then (compare m m')).swap := by
  rw [Ordering.swap_then, ← Std.OrientedCmp.eq_swap, ← Std.OrientedCmp.eq_swap]

/-- Compared the other way round, doubles are in the opposite order. -/
theorem compare_swap (u v : UnpackedFloat) : v.compare u = (u.compare v).map Ordering.swap := by
  cases u with
  | notANumber => cases v <;> rfl
  | infinity s =>
      cases v with
      | infinity t => exact congrArg some (compare_sign_swap s t)
      | _ => cases s <;> rfl
  | zero s =>
      cases v with
      | infinity t => cases t <;> rfl
      | finite t => cases t <;> rfl
      | _ => rfl
  | finite s m e =>
      cases v with
      | notANumber => rfl
      | infinity t => cases t <;> cases s <;> rfl
      | zero t => cases s <;> rfl
      | finite t m' e' =>
          cases s with
          | negative =>
              cases t with
              | negative => exact congrArg (some ∘ Ordering.swap) (compare_finite_swap e e' m m')
              | positive => rfl
          | positive =>
              cases t with
              | negative => rfl
              | positive => exact congrArg some (compare_finite_swap e e' m m')

/-- Only undefined doubles are in no order. -/
theorem compare_eq_none_iff (u v : UnpackedFloat) :
    u.compare v = none ↔ u.isNaN = true ∨ v.isNaN = true := by
  have hordered : ∀ {order : Ordering} {a b : Bool}, a = false → b = false →
      (some order = none ↔ a = true ∨ b = true) := by
    rintro order a b rfl rfl
    simp
  cases u with
  | notANumber => exact ⟨fun _ => .inl rfl, fun _ => by cases v <;> rfl⟩
  | infinity s =>
      cases v with
      | notANumber => exact ⟨fun _ => .inr rfl, fun _ => by cases s <;> rfl⟩
      | _ => cases s <;> exact hordered rfl rfl
  | zero s =>
      cases v with
      | notANumber => exact ⟨fun _ => .inr rfl, fun _ => rfl⟩
      | zero t => exact hordered rfl rfl
      | finite t | infinity t => cases t <;> exact hordered rfl rfl
  | finite s m e =>
      cases v with
      | notANumber => exact ⟨fun _ => .inr rfl, fun _ => by cases s <;> rfl⟩
      | zero t => cases s <;> exact hordered rfl rfl
      | finite t | infinity t => cases s <;> cases t <;> exact hordered rfl rfl

variable {x y : Float}

theorem le_iff_compare :
    x ≤ y ↔ ∃ order, x.toModel.unpack.compare y.toModel.unpack = some order ∧ order.isLE := by
  show (decide (x.toModel ≤ y.toModel)) = true ↔ _
  rw [decide_eq_true_iff]
  show Option.any _ _ = true ↔ _
  rw [Option.any_eq_true]

theorem gt_iff_compare : x > y ↔ x.toModel.unpack.compare y.toModel.unpack = some .gt := by
  show (decide (y.toModel < x.toModel)) = true ↔ _
  rw [decide_eq_true_iff]
  show (y.toModel.unpack.compare x.toModel.unpack == some .lt) = true ↔ _
  rw [compare_swap x.toModel.unpack]
  cases x.toModel.unpack.compare y.toModel.unpack with
  | none => simp
  | some order => cases order <;> simp

/-- Doubles that are defined are in one of the two orders. -/
theorem gt_iff_not_le (hx : x.isNaN = false) (hy : y.isNaN = false) : x > y ↔ ¬ x ≤ y := by
  rw [gt_iff_compare, le_iff_compare]
  cases hcompare : x.toModel.unpack.compare y.toModel.unpack with
  | none =>
      rcases (compare_eq_none_iff _ _).mp hcompare with hnan | hnan
      · exact absurd (hx.symm.trans hnan) Bool.false_ne_true
      · exact absurd (hy.symm.trans hnan) Bool.false_ne_true
  | some order => cases order <;> simp

/-- An undefined double is in neither order to any other. -/
theorem neither_of_isNaN (hx : x.isNaN = true) (y : Float) : ¬ x ≤ y ∧ ¬ x > y := by
  have hcompare : x.toModel.unpack.compare y.toModel.unpack = none :=
    (compare_eq_none_iff _ _).mpr (.inl hx)
  rw [gt_iff_compare, le_iff_compare, hcompare]
  simp

/-! ## Undefined differences -/

theorem isNaN_dite {c : Prop} [Decidable c] {u : c → UnpackedFloat} {v : ¬ c → UnpackedFloat}
    (hu : ∀ h, (u h).isNaN = false) (hv : ∀ h, (v h).isNaN = false) :
    (dite c u v).isNaN = false := by
  by_cases h : c
  · rw [dif_pos h]
    exact hu h
  · rw [dif_neg h]
    exact hv h

theorem isNaN_unpack {format : Format} (bits : BitVec format.numBits) :
    (UnpackedFloat.unpack format bits).isNaN = true ↔
      unpackExponent bits = -1#_ ∧ unpackMantissa bits ≠ 0#_ := by
  unfold UnpackedFloat.unpack
  by_cases hscale : unpackExponent bits = -1#_
  · by_cases hfraction : unpackMantissa bits = 0#_
    · rw [if_pos hscale, if_pos hfraction]
      exact ⟨nofun, fun h => absurd hfraction h.2⟩
    · rw [if_pos hscale, if_neg hfraction]
      exact ⟨fun _ => ⟨hscale, hfraction⟩, fun _ => rfl⟩
  · rw [if_neg hscale]
    refine ⟨fun hnan => absurd hnan (Bool.eq_false_iff.mp ?_), fun h => absurd h.1 hscale⟩
    exact isNaN_dite (fun _ => isNaN_dite (fun _ => rfl) fun _ => rfl) fun _ => rfl

/-- The greatest scale with a fraction stands for undefined doubles only. -/
theorem exists_components {u : UnpackedFloat} (hu : u.isNaN = false) :
    ∃ sign scale fraction, UnpackedFloat.pack Format.binary64 u =
      packComponents Format.binary64 sign scale fraction ∧ (scale = -1#_ → fraction = 0#_) := by
  cases u with
  | notANumber => cases hu
  | infinity s => exact ⟨s, -1#_, 0#_, rfl, fun _ => rfl⟩
  | zero s => exact ⟨s, 0#_, 0#_, rfl, fun _ => rfl⟩
  | finite s m e =>
      unfold UnpackedFloat.pack
      dsimp only
      generalize (e + Format.binary64.exponentBias + Format.binary64.mantissaBitsWithoutImplicit).toNat =
        scale
      split
      · exact ⟨s, -1#_, 0#_, rfl, fun _ => rfl⟩
      · next hscale =>
          split
          · refine ⟨s, _, _, rfl, fun hgreatest => absurd hgreatest fun heq => ?_⟩
            have hvalue := congrArg BitVec.toNat heq
            change ¬ 2048 ≤ scale + 1 at hscale
            change scale % 2048 = 2047 at hvalue
            omega
          · exact ⟨s, 0#_, _, rfl, fun hgreatest => absurd hgreatest (by decide)⟩

/-- Packing loses digits, but no double gets undefined by it. -/
theorem isNaN_pack_eq (u : UnpackedFloat) :
    (Float.ofModel (Float.Model.pack u)).isNaN = u.isNaN := by
  cases hu : u.isNaN with
  | true => exact isNaN_pack hu
  | false =>
      refine Bool.eq_false_iff.mpr fun hnan => ?_
      obtain ⟨sign, scale, fraction, hpack, hgreatest⟩ := exists_components hu
      obtain ⟨hscale, hfraction⟩ := (isNaN_unpack (UnpackedFloat.pack Format.binary64 u)).mp hnan
      rw [hpack, unpackExponent_packComponents] at hscale
      rw [hpack, unpackMantissa_packComponents] at hfraction
      exact hfraction (hgreatest hscale)

/-- Rounding gives a number. -/
theorem isNaN_normalize (format : Format) (mantissa exponent : Int) (sign : Sign) :
    (UnpackedFloat.normalize format mantissa exponent sign).isNaN = false := by
  have hround : ∀ (format : Format) sign mantissa exponent,
      (UnpackedFloat.round format sign mantissa exponent).isNaN = false := by
    intro format sign mantissa exponent
    unfold UnpackedFloat.round roundWithAccuracy
    exact isNaN_dite (fun _ => rfl) fun _ => rfl
  unfold UnpackedFloat.normalize
  split
  · exact hround ..
  · rfl
  · exact hround ..

theorem isNaN_abs (x : Float) : x.abs.isNaN = x.isNaN := by
  refine (isNaN_pack_eq x.toModel.unpack.abs).trans ?_
  show x.toModel.unpack.abs.isNaN = x.toModel.unpack.isNaN
  cases x.toModel.unpack <;> rfl

/-- What is undefined when doubles are subtracted, once they are unpacked. -/
theorem isNaN_sub_eq (format : Format) (u v : UnpackedFloat) :
    (UnpackedFloat.sub format u v).isNaN = (u.isNaN || v.isNaN || (u.isInf && u.beq v)) := by
  cases u with
  | notANumber => cases v <;> rfl
  | infinity s =>
      cases v with
      | infinity t => cases s <;> cases t <;> rfl
      | _ => cases s <;> rfl
  | zero s =>
      cases v with
      | zero t => cases s <;> cases t <;> rfl
      | _ => rfl
  | finite s m e =>
      cases v with
      | finite t m' e' => exact isNaN_normalize format _ _ _
      | _ => rfl

/-- Doubles without a difference: one of them is undefined, or both are the same infinity. -/
def NoDifference (x y : Float) : Prop :=
  x.isNaN = true ∨ y.isNaN = true ∨ (x.isInf = true ∧ (x == y) = true)

instance (x y : Float) : Decidable (NoDifference x y) := inferInstanceAs (Decidable (_ ∨ _))

theorem isNaN_sub_iff (x y : Float) : (x - y).isNaN = true ↔ NoDifference x y := by
  have hsub : (x - y).isNaN = _ := isNaN_pack_eq _
  rw [hsub, isNaN_sub_eq, Bool.or_eq_true, Bool.or_eq_true, Bool.and_eq_true, or_assoc]
  exact Iff.rfl

end Screener.Decimal
