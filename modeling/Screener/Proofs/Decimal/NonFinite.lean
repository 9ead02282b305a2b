import Screener.Quantity

/-!
# Doubles that are not finite

An infinite or undefined double is never calculated away: a sum, a difference or a product with one
is not finite either, nor is a quotient of one.  If the double is undefined, so is the result.

An operation unpacks its operands, calculates and packs the result.  Packing loses digits but
neither infinities nor undefined numbers, so it is enough to look at the unpacked operation, case by
case of its operands.
-/

namespace Screener

/-- Numbers with which no operation gives others, whatever the other operand; only as divisors they
may vanish. -/
structure Quantity.Absorbing {α : Type} [Quantity α] (Lost : α → Prop) : Prop where
  add {a b : α} (h : Lost a ∨ Lost b) : Lost (a + b)
  sub {a b : α} (h : Lost a ∨ Lost b) : Lost (a - b)
  mul {a b : α} (h : Lost a ∨ Lost b) : Lost (a * b)
  div {a b : α} (h : Lost a) : Lost (a / b)

namespace Decimal

open Float.Model UnpackedFloat

variable (format : Format) {u v : UnpackedFloat}

/-! ## Numbers without a value -/

theorem eq_of_not_finite (hu : u.isFinite = false) :
    u = .notANumber ∨ ∃ sign, u = .infinity sign := by
  cases u with
  | notANumber => exact .inl rfl
  | infinity sign => exact .inr ⟨sign, rfl⟩
  | zero => cases hu
  | finite => cases hu

theorem isFinite_pack (hu : u.isFinite = false) :
    (Float.ofModel (Float.Model.pack u)).isFinite = false := by
  rcases eq_of_not_finite hu with rfl | ⟨sign, rfl⟩
  · decide
  · cases sign <;> decide

/-- Two infinities add up to one of them or, with different signs, to no number. -/
theorem isFinite_infinities (c : Prop) [Decidable c] (sign : Sign) :
    (if c then infinity sign else notANumber).isFinite = false := by
  split <;> rfl

theorem isFinite_add (h : u.isFinite = false ∨ v.isFinite = false) :
    (UnpackedFloat.add format u v).isFinite = false := by
  rcases h with h | h <;> rcases eq_of_not_finite h with rfl | ⟨sign, rfl⟩
  · rfl
  · cases v with
    | infinity => exact isFinite_infinities _ _
    | _ => rfl
  · cases u <;> rfl
  · cases u with
    | infinity => exact isFinite_infinities _ _
    | _ => rfl

theorem isFinite_sub (h : u.isFinite = false ∨ v.isFinite = false) :
    (UnpackedFloat.sub format u v).isFinite = false := by
  rcases h with h | h <;> rcases eq_of_not_finite h with rfl | ⟨sign, rfl⟩
  · rfl
  · cases v with
    | infinity => exact isFinite_infinities _ _
    | _ => rfl
  · cases u <;> rfl
  · cases u with
    | infinity => exact isFinite_infinities _ _
    | _ => rfl

theorem isFinite_mul (h : u.isFinite = false ∨ v.isFinite = false) :
    (UnpackedFloat.mul format u v).isFinite = false := by
  rcases h with h | h <;> rcases eq_of_not_finite h with rfl | ⟨sign, rfl⟩
  · rfl
  · cases v <;> rfl
  · cases u <;> rfl
  · cases u <;> rfl

theorem isFinite_div (h : u.isFinite = false) :
    (UnpackedFloat.div format u v).isFinite = false := by
  rcases eq_of_not_finite h with rfl | ⟨sign, rfl⟩
  · rfl
  · cases v <;> rfl

theorem absorbing_notFinite : Quantity.Absorbing fun x : Float => x.isFinite = false where
  add h := isFinite_pack (isFinite_add _ h)
  sub h := isFinite_pack (isFinite_sub _ h)
  mul h := isFinite_pack (isFinite_mul _ h)
  div h := isFinite_pack (isFinite_div _ h)

/-! ## Undefined numbers -/

theorem eq_notANumber_of_isNaN (hu : u.isNaN = true) : u = .notANumber := by
  cases u with
  | notANumber => rfl
  | infinity => cases hu
  | zero => cases hu
  | finite => cases hu

theorem isNaN_pack (hu : u.isNaN = true) :
    (Float.ofModel (Float.Model.pack u)).isNaN = true := by
  rw [eq_notANumber_of_isNaN hu]
  decide

theorem isNaN_add (h : u.isNaN = true ∨ v.isNaN = true) :
    (UnpackedFloat.add format u v).isNaN = true := by
  rcases h with h | h
  · rw [eq_notANumber_of_isNaN h]
    rfl
  · rw [eq_notANumber_of_isNaN h]
    cases u <;> rfl

theorem isNaN_sub (h : u.isNaN = true ∨ v.isNaN = true) :
    (UnpackedFloat.sub format u v).isNaN = true := by
  rcases h with h | h
  · rw [eq_notANumber_of_isNaN h]
    rfl
  · rw [eq_notANumber_of_isNaN h]
    cases u <;> rfl

theorem isNaN_mul (h : u.isNaN = true ∨ v.isNaN = true) :
    (UnpackedFloat.mul format u v).isNaN = true := by
  rcases h with h | h
  · rw [eq_notANumber_of_isNaN h]
    rfl
  · rw [eq_notANumber_of_isNaN h]
    cases u <;> rfl

theorem isNaN_div (h : u.isNaN = true) : (UnpackedFloat.div format u v).isNaN = true := by
  rw [eq_notANumber_of_isNaN h]
  rfl

theorem absorbing_isNaN : Quantity.Absorbing fun x : Float => x.isNaN = true where
  add h := isNaN_pack (isNaN_add _ h)
  sub h := isNaN_pack (isNaN_sub _ h)
  mul h := isNaN_pack (isNaN_mul _ h)
  div h := isNaN_pack (isNaN_div _ h)

end Decimal

end Screener
