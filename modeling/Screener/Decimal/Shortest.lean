import Screener.Decimal.Binary

/-!
# Shortest decimals

The decimal of a double is the one with the fewest digits among those that are nearer to it than
to any other double, and of those the nearest.  The search runs over the grids of the powers of
ten from coarse to fine and tests the two neighbours of the value on each grid in exact integer
arithmetic: if any point of a grid lies in the interval of reals that round to the value, so does
one of these two.
-/

namespace Screener.Decimal

/-- The number `coefficient * 10 ^ exponent`. -/
structure Scaled where
  coefficient : Nat
  exponent : Int
  deriving Repr, DecidableEq

/-- Which of two equally near decimals is taken. -/
inductive Tie where
  | up
  | even
  deriving Repr, DecidableEq

/-- The reals that round to a double, as multiples of `1 / denominator`: from `low` to `high`,
the ends included if `closed`, with the double itself at `value`. -/
structure Interval where
  low : Nat
  value : Nat
  high : Nat
  denominator : Nat
  closed : Bool

/-- The interval of a double with a significand above zero; an even significand keeps the ends. -/
def Interval.ofBinary (b : Binary) : Interval :=
  let below := if b.crowdedBelow then 1 else 2
  let scale := b.exponent - 2
  let up := powerOfTwo scale.toNat
  { low := (4 * b.significand - below) * up
    value := 4 * b.significand * up
    high := (4 * b.significand + 2) * up
    denominator := powerOfTwo (-scale).toNat
    closed := b.significand % 2 = 0 }

/-- Whether `coefficient * unit` lies in an interval whose ends are multiplied by `factor`. -/
def Interval.holds (i : Interval) (factor unit coefficient : Nat) : Bool :=
  let point := coefficient * unit
  if i.closed then i.low * factor ≤ point && point ≤ i.high * factor
  else i.low * factor < point && point < i.high * factor

/-- The multiple of `10 ^ exponent` in the interval that is nearest to the value, if there is one;
only the two neighbours of the value are tried. -/
def Interval.onGrid (i : Interval) (tie : Tie) (exponent : Int) : Option Nat :=
  let factor := powerOfTen (-exponent).toNat
  let unit := i.denominator * powerOfTen exponent.toNat
  let floor := i.value * factor / unit
  let rest := i.value * factor % unit
  let lower := i.holds factor unit floor
  let upper := i.holds factor unit (floor + 1)
  let takeUpper := match compare (2 * rest) unit with
    | .lt => false
    | .gt => true
    | .eq => match tie with
      | .up => true
      | .even => floor % 2 = 1
  match lower, upper with
  | true, true => some (if takeUpper then floor + 1 else floor)
  | true, false => some floor
  | false, true => some (floor + 1)
  | false, false => none

/-- A power of ten above the value, and at most a few above it. -/
def Interval.topExponent (i : Interval) : Int :=
  ((i.value.log2 : Int) - i.denominator.log2) * 30103 / 100000 + 2

/-- The coarsest of the grids below `10 ^ top` with a point in the interval. -/
def Interval.search (i : Interval) (tie : Tie) : Nat → Int → Option Scaled
  | 0, _ => none
  | steps + 1, top => match i.onGrid tie top with
    | some coefficient => some ⟨coefficient, top⟩
    | none => i.search tie steps (top - 1)

/-- The shortest decimal of the size of a finite double; zero is `0 * 10 ^ 0`.  Seventeen digits
tell all doubles apart, so twenty-four grids are enough. -/
def shortest (tie : Tie) (b : Binary) : Scaled :=
  if b.significand = 0 then ⟨0, 0⟩
  else
    let i := Interval.ofBinary b
    (i.search tie 24 i.topExponent).getD ⟨0, 0⟩

end Screener.Decimal
