import Mathlib.Algebra.Order.Field.Basic
import Screener.Proofs.Indicator.Exact
import Screener.Proofs.Indicator.Loops

/-!
# Guarded quantities

Division by zero has a result in a field as it has one among doubles, so a calculation does not
show that it divided by zero.  Guarded quantities do: a division by zero is a fault, and whatever is
calculated from a fault is a fault.  A calculation that gives the same over guarded quantities as
over exact ones has not divided by zero for any value that it gives.
-/

namespace Screener

/-- A number, or the fault that a division by zero leaves. -/
inductive Guarded (K : Type) where
  | number (value : K)
  | fault
  deriving DecidableEq

namespace Guarded

variable {K : Type}

/-- An operation that has a result for all numbers. -/
def apply₂ (operation : K → K → K) : Guarded K → Guarded K → Guarded K
  | number a, number b => number (operation a b)
  | _, _ => fault

variable [Field K] [LinearOrder K] [Rooted K]

/-- A quotient, if the divisor is not zero. -/
def divide : Guarded K → Guarded K → Guarded K
  | number a, number b => if b = 0 then fault else number (a / b)
  | _, _ => fault

/-- The exact numbers, but a division by zero is a fault.  A fault is above every number, so the
larger of two quantities is a fault if one of them is. -/
instance : Quantity (Guarded K) where
  add := apply₂ (· + ·)
  sub := apply₂ (· - ·)
  mul := apply₂ (· * ·)
  div := divide
  neg
    | number a => number (-a)
    | fault => fault
  ofNat n := number n
  sqrt
    | number a => number (Rooted.root a)
    | fault => fault
  abs
    | number a => number |a|
    | fault => fault
  less
    | number a, number b => decide (a < b)
    | number _, fault => true
    | fault, _ => false
  same
    | number a, number b => decide (a = b)
    | _, _ => false
  isUndefined _ := false

@[simp] theorem number_add (a b : K) : number a + number b = number (a + b) := rfl

@[simp] theorem number_sub (a b : K) : number a - number b = number (a - b) := rfl

@[simp] theorem number_mul (a b : K) : number a * number b = number (a * b) := rfl

@[simp] theorem number_neg (a : K) : -number a = number (-a) := rfl

@[simp] theorem ofNat_eq_number (n : Nat) : (Quantity.ofNat n : Guarded K) = number (n : K) := rfl

@[simp] theorem same_number (a b : K) :
    Quantity.same (number a) (number b) = decide (a = b) := rfl

theorem number_div {a b : K} (hb : b ≠ 0) : number a / number b = number (a / b) :=
  if_neg hb

@[simp] theorem nothing_eq_number : (Quantity.nothing : Guarded K) = number 0 := by
  rw [Quantity.nothing, ofNat_eq_number, number_neg, Nat.cast_zero, neg_zero]

@[simp] theorem larger_number (a b : K) :
    Quantity.larger (number a) (number b) = number (max a b) := by
  have hless : Quantity.less (number b) (number a) = decide (b < a) := rfl
  have hdefined : Quantity.isUndefined (number b) = false := rfl
  by_cases hlt : b < a
  · simp [Quantity.larger, hless, hdefined, hlt, max_eq_left hlt.le]
  · simp [Quantity.larger, hless, hdefined, hlt, max_eq_right (not_lt.mp hlt)]

end Guarded

namespace Indicator

open Guarded

variable {K : Type} [Field K] [LinearOrder K] [Rooted K] {period : Nat}

theorem changes_number (values : List K) :
    changes (values.map number) = (changes values).map number := by
  unfold changes
  rw [← List.map_drop, List.zip_map, List.map_map, List.map_map]
  rfl

/-- What is made of each change. -/
theorem map_changes_number {side : K → K} {guarded : Guarded K → Guarded K}
    (hside : ∀ a, guarded (number a) = number (side a)) (values : List K) :
    (changes (values.map number)).map guarded = ((changes values).map side).map number := by
  rw [changes_number, List.map_map, List.map_map]
  exact List.map_congr_left fun change _ => hside change

theorem gains_number (values : List K) : gains (values.map number) = (gains values).map number :=
  map_changes_number (fun _ => by simp) values

theorem losses_number (values : List K) :
    losses (values.map number) = (losses values).map number :=
  map_changes_number (fun _ => by simp) values

/-- With gains and losses that are not negative nothing is divided by zero: losses of zero are left
out, and what the quotient is added to makes a divisor of at least 1. -/
theorem strength_number [IsStrictOrderedRing K] {gain loss : K} (hgain : 0 ≤ gain)
    (hloss : 0 ≤ loss) : strength (number gain) (number loss) = number (strength gain loss) := by
  unfold strength
  by_cases hnone : loss = 0
  · simp [hnone]
  · have hparts : 1 + gain / loss ≠ 0 :=
      (add_pos_of_pos_of_nonneg one_pos (div_nonneg hgain hloss)).ne'
    simp [hnone, number_div hnone, number_div hparts]

theorem strength?_number [IsStrictOrderedRing K] {means : Option K × Option K}
    (hgain : ∀ gain, means.1 = some gain → 0 ≤ gain)
    (hloss : ∀ loss, means.2 = some loss → 0 ≤ loss) :
    strength? (means.map (Option.map number) (Option.map number)) =
      (strength? means).map number := by
  obtain ⟨gain?, loss?⟩ := means
  cases gain? with
  | none => rfl
  | some gain =>
      cases loss? with
      | none => rfl
      | some loss => exact congrArg some (strength_number (hgain gain rfl) (hloss loss rfl))

/-- A mean over at least one row divides by the number of rows and by nothing else. -/
theorem wilder_number [CharZero K] (hperiod : 1 ≤ period) (values : List K) :
    wilder period (values.map number) = (wilder period values).map (Option.map number) := by
  have hrows : (period : K) ≠ 0 := Nat.cast_ne_zero.mpr (by omega)
  have hstart : ((0 : Nat), (Quantity.nothing : Guarded K)) =
      Prod.map id number (0, (Quantity.nothing : K)) := by simp
  unfold wilder
  rw [smoothed_eq, smoothed_eq, hstart]
  refine scan_map (Prod.map id number) number (Option.map number) (fun state value => ?_) _ values
  obtain ⟨row, level⟩ := state
  simp only [smoothingStep, advance, Prod.map_apply, id_eq, ofNat_eq_number, number_add,
    number_mul, number_div hrows]
  -- the sum, the first mean, the mean after it
  split
  · rfl
  · split <;> rfl

end Indicator

end Screener
