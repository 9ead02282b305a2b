/-!
# Doubles as integers

A finite double is `significand * 2 ^ exponent` with a sign.  `Binary.ofFloat` reads these parts
off the bits, and every printer of numbers works on them in exact integer arithmetic.
-/

namespace Screener.Decimal

/-- A power of two. -/
def powerOfTwo (n : Nat) : Nat := Nat.pow 2 n

/-- A power of ten. -/
def powerOfTen (n : Nat) : Nat := Nat.pow 10 n

/-- A finite double: `significand * 2 ^ exponent`, negated if `negative`. -/
structure Binary where
  negative : Bool
  significand : Nat
  exponent : Int
  deriving Repr, DecidableEq

/-- What the bits of a double stand for. -/
inductive Parts where
  | finite (value : Binary)
  | infinite (negative : Bool)
  | notANumber
  deriving Repr, DecidableEq

/-- The parts of a double, from its sign bit, eleven exponent bits and 52 fraction bits. -/
def Parts.ofBits (bits : Nat) : Parts :=
  let negative := decide (bits / powerOfTwo 63 % 2 = 1)
  let scale : Nat := bits / powerOfTwo 52 % powerOfTwo 11
  let fraction : Nat := bits % powerOfTwo 52
  if scale = 2047 then
    if fraction = 0 then .infinite negative else .notANumber
  else if scale = 0 then .finite ⟨negative, fraction, -1074⟩
  else .finite ⟨negative, powerOfTwo 52 + fraction, (scale : Int) - 1075⟩

/-- The parts of a double. -/
def Parts.ofFloat (x : Float) : Parts := .ofBits x.toBits.toNat

/-- The natural number that a finite double stands for, if it is one. -/
def Binary.natural? (b : Binary) : Option Nat :=
  if b.negative && b.significand != 0 then none
  else if 0 ≤ b.exponent then some (b.significand * powerOfTwo b.exponent.natAbs)
  else if b.significand % powerOfTwo b.exponent.natAbs = 0 then
    some (b.significand / powerOfTwo b.exponent.natAbs)
  else none

/-- The natural number that a double stands for, if it is one. -/
def Parts.natural? : Parts → Option Nat
  | .finite value => value.natural?
  | _ => none

/-- The next smaller double is only half as far away as the next larger one: so it is for the
least significand of all exponents but the lowest. -/
def Binary.crowdedBelow (b : Binary) : Bool :=
  b.significand = powerOfTwo 52 && b.exponent ≠ -1074

end Screener.Decimal
