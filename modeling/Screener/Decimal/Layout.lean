import Screener.Decimal.Shortest

/-!
# Layouts of numbers

How the digits of a number are written: where the point stands, how many places follow it at
least, and from which size on a power of ten is written instead of zeros.
-/

namespace Screener.Decimal

/-- The decimal digits of a natural number. -/
def digits (n : Nat) : List Char := Nat.toDigits 10 n

/-- The decisions of one way to write numbers. -/
structure Layout where
  /-- Digits after the point, at least. -/
  places : Nat
  /-- The powers of ten of the first digit that are written without an exponent; no bounds, no
  exponents. -/
  positional : Option (Int × Int)
  /-- Which of two equally near decimals is taken. -/
  tie : Tie

/-- A coefficient with the point `fraction` digits before its end, filled up with zeros. -/
def withPoint (coefficient fraction : Nat) : List Char :=
  let ds := digits coefficient
  let ds := List.replicate (fraction + 1 - ds.length) '0' ++ ds
  if fraction = 0 then ds
  else ds.take (ds.length - fraction) ++ '.' :: ds.drop (ds.length - fraction)

/-- The digits of a number in place, with at least `places` of them after the point. -/
def Scaled.inPlace (s : Scaled) (places : Nat) : List Char :=
  let fraction := max (-s.exponent).toNat places
  withPoint (s.coefficient * powerOfTen (s.exponent + fraction).toNat) fraction

/-- One digit before the point, the others after it, and a power of ten. -/
def Scaled.withExponent (s : Scaled) : List Char :=
  let ds := digits s.coefficient
  let power := s.exponent + (ds.length - 1 : Nat)
  let tail := ds.drop 1
  ds.take 1 ++ (if tail.isEmpty then [] else '.' :: tail) ++ 'e' :: (toString power).toList

/-- The power of ten of the first digit. -/
def Scaled.leading (s : Scaled) : Int :=
  s.exponent + (digits s.coefficient).length - 1

/-- The digits of a number as a layout wants them. -/
def Layout.unsigned (layout : Layout) (s : Scaled) : List Char :=
  match layout.positional with
  | none => s.inPlace layout.places
  | some (lowest, highest) =>
    if s.coefficient = 0 ∨ (lowest ≤ s.leading ∧ s.leading ≤ highest) then s.inPlace layout.places
    else s.withExponent

/-- The sign of a number, if it is negative; zero has one too. -/
def sign (negative : Bool) : List Char := if negative then ['-'] else []

/-- A number in the shortest form that reads back, written as a layout wants it. -/
def Layout.chars (layout : Layout) (x : Float) : List Char :=
  match Parts.ofFloat x with
  | .notANumber => "NaN".toList
  | .infinite negative => sign negative ++ "inf".toList
  | .finite b => sign b.negative ++ layout.unsigned (shortest layout.tie b)

/-- A number as a text. -/
def Layout.text (layout : Layout) (x : Float) : String := String.ofList (layout.chars x)

/-- Numbers in formulas and messages have no needless point and never an exponent. -/
def plain : Layout := ⟨0, none, .up⟩

/-- Rounds `numerator / denominator` to the nearest integer, a half to the even one. -/
def roundHalfEven (numerator denominator : Nat) : Nat :=
  let floor := numerator / denominator
  match compare (2 * (numerator % denominator)) denominator with
  | .lt => floor
  | .gt => floor + 1
  | .eq => if floor % 2 = 0 then floor else floor + 1

/-- A number with exactly `places` digits after the point, rounded from its exact value. -/
def fixed (places : Nat) (x : Float) : String :=
  match Parts.ofFloat x with
  | .notANumber => "NaN"
  | .infinite negative => String.ofList (sign negative ++ "inf".toList)
  | .finite b =>
    let numerator := b.significand * powerOfTwo b.exponent.toNat * powerOfTen places
    let units := roundHalfEven numerator (powerOfTwo (-b.exponent).toNat)
    String.ofList (sign b.negative ++ withPoint units places)

end Screener.Decimal
