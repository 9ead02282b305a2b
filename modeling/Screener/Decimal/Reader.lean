/-!
# Reading numbers

`readFloat?` accepts an optional sign and then digits with an optional point and an optional power
of ten, or one of the words `inf`, `infinity` and `nan` in any case; `readInteger?` accepts an
optional sign and digits within given bounds.
-/

namespace Screener.Decimal

/-- The number that a list of ASCII digits stands for; nothing else is accepted. -/
def readNat? (cs : List Char) : Option Nat :=
  if cs.isEmpty then none
  else cs.foldl (fun value c => do
    let value ← value
    if c.isDigit then some (10 * value + (c.toNat - '0'.toNat)) else none) (some 0)

/-- The sign of a text and what follows it; without a sign the text is positive. -/
def splitSign : List Char → Bool × List Char
  | '-' :: rest => (true, rest)
  | '+' :: rest => (false, rest)
  | cs => (false, cs)

/-- An integer from `lowest` to `highest`, with an optional sign. -/
def readInteger? (lowest highest : Int) (cs : List Char) : Option Int := do
  let (negative, body) := splitSign cs
  let size ← readNat? body
  let value : Int := if negative then -size else size
  if lowest ≤ value ∧ value ≤ highest then some value else none

/-- The least integer of 64 bits. -/
def lowest64 : Int := -9223372036854775808

/-- The greatest integer of 64 bits. -/
def highest64 : Int := 9223372036854775807

/-- An integer of 64 bits, with an optional sign. -/
def readInt64? (cs : List Char) : Option Int := readInteger? lowest64 highest64 cs

/-- The power of ten after the letter `e`, which must have digits. -/
def readPower? : List Char → Option Int
  | [] => some 0
  | c :: rest =>
    if c = 'e' ∨ c = 'E' then do
      let (negative, body) := splitSign rest
      let size ← readNat? body
      some (if negative then -size else size)
    else none

/-- The double nearest to `coefficient * 10 ^ exponent`.  Far outside the range of doubles the
power of ten is not computed. -/
def nearest (coefficient : Nat) (exponent : Int) : Float :=
  let size := (Nat.toDigits 10 coefficient).length + exponent
  if coefficient = 0 ∨ size < -330 then 0.0
  else if size > 320 then 1.0 / 0.0
  else if exponent < 0 then Float.ofScientific coefficient true exponent.natAbs
  else Float.ofScientific coefficient false exponent.natAbs

/-- Digits, at most one point among or around them, and a power of ten. -/
def readUnsigned? (cs : List Char) : Option Float := do
  let whole := cs.takeWhile Char.isDigit
  let rest := cs.dropWhile Char.isDigit
  let (fraction, rest) := match rest with
    | '.' :: rest => (rest.takeWhile Char.isDigit, rest.dropWhile Char.isDigit)
    | rest => ([], rest)
  let coefficient ← readNat? (whole ++ fraction)
  let power ← readPower? rest
  some (nearest coefficient (power - fraction.length))

/-- The double that a text stands for. -/
def readFloat? (cs : List Char) : Option Float := do
  let (negative, body) := splitSign cs
  let size ←
    if body.map Char.toLower = "nan".toList then some (0.0 / 0.0)
    else if body.map Char.toLower = "inf".toList then some (1.0 / 0.0)
    else if body.map Char.toLower = "infinity".toList then some (1.0 / 0.0)
    else readUnsigned? body
  some (if negative then -size else size)

end Screener.Decimal
