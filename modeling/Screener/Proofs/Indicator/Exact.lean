import Mathlib.Algebra.BigOperators.Group.List.Basic
import Mathlib.Algebra.Order.Field.Basic
import Mathlib.Data.Rat.Sqrt
import Screener.Quantity

/-!
# Exact quantities

The numbers of an ordered field as quantities: no operation rounds, none overflows, and every
number stands for a value.  What an indicator computes over them is what its formula says, free of
the errors of doubles.  A field need not have square roots; whatever stands for them is a part of
the instance (`Rooted`), and no theorem about exact quantities depends on it.
-/

namespace Screener

/-- What stands for the square root among the numbers of a field. -/
class Rooted (K : Type) where
  root : K → K

/-- The root of a square, and of other fractions the roots of their parts without the rest. -/
instance : Rooted ℚ := ⟨Rat.sqrt⟩

namespace Quantity

variable {K : Type} [Field K] [LinearOrder K] [Rooted K]

/-- The numbers of an ordered field with their own operations. -/
instance exact : Quantity K where
  ofNat n := n
  sqrt := Rooted.root
  abs a := |a|
  less a b := decide (a < b)
  same a b := decide (a = b)
  isUndefined _ := false

@[simp] theorem ofNat_exact (n : Nat) : (ofNat n : K) = n := rfl

@[simp] theorem abs_exact (a : K) : Quantity.abs a = |a| := rfl

@[simp] theorem same_exact (a b : K) : same a b = decide (a = b) := rfl

@[simp] theorem nothing_exact : (nothing : K) = 0 := by
  rw [nothing, ofNat_exact, Nat.cast_zero]
  exact neg_zero

/-- An exact sum is the sum of the list, whatever it starts from. -/
@[simp] theorem sum_exact (values : List K) : Quantity.sum values = values.sum := by
  rw [Quantity.sum, nothing_exact, List.sum_eq_foldl]

@[simp] theorem larger_exact (a b : K) : larger a b = max a b := by
  have hless : less b a = decide (b < a) := rfl
  have hdefined : isUndefined b = false := rfl
  by_cases hlt : b < a
  · simp [larger, hless, hdefined, hlt, max_eq_left hlt.le]
  · simp [larger, hless, hdefined, hlt, max_eq_right (not_lt.mp hlt)]

end Quantity

end Screener
