/-!
# Quantities

The arithmetic in which prices and volumes are averaged.  Every indicator is written over this
class: it runs on doubles, and what it computes can be stated over any other numbers that have the
same operations, such as the exact numbers of an ordered field.
-/

namespace Screener

/-- Numbers with the operations that the indicators use. -/
class Quantity (α : Type) extends Add α, Sub α, Mul α, Div α, Neg α where
  /-- A whole number. -/
  ofNat : Nat → α
  /-- The square root of a mean of squares. -/
  sqrt : α → α
  /-- The size without the sign. -/
  abs : α → α
  /-- Whether the first number is below the second. -/
  less : α → α → Bool
  /-- Whether two numbers are equal. -/
  same : α → α → Bool
  /-- Whether a number stands for no value at all; it then gives way to any other. -/
  isUndefined : α → Bool

namespace Quantity

variable {α : Type} [Quantity α]

/-- The larger of two numbers and the second of two equal ones; an undefined number gives way. -/
def larger (a b : α) : α :=
  if isUndefined b || less b a then a else b

/-- What a sum starts from.  For doubles this is negative zero, which changes no number to which
it is added, zeros included. -/
def nothing : α := -(ofNat 0)

/-- The sum of a list, added up from the left. -/
def sum (values : List α) : α := values.foldl (· + ·) nothing

instance : Quantity Float where
  ofNat := Float.ofNat
  sqrt := Float.sqrt
  abs := Float.abs
  less a b := decide (a < b)
  same a b := a == b
  isUndefined := Float.isNaN

end Quantity

end Screener
