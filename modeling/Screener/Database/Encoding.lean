import Screener.Database.Number

/-!
# Texts in bytes

A database keeps its texts in UTF-8, or in UTF-16 with either byte of a unit first.
-/

namespace Screener.Database

/-- How texts are kept. -/
inductive Encoding where
  | utf8
  | utf16LowFirst
  | utf16HighFirst
  deriving Repr, DecidableEq

namespace Encoding

/-- The encoding that a number in a header stands for. -/
def ofCode (code : Nat) : Encoding :=
  match code % 4 with
  | 2 => utf16LowFirst
  | 3 => utf16HighFirst
  | _ => utf8

/-- The units of UTF-16 for a character. -/
def unitsOf (c : Char) : List Nat :=
  let n := c.toNat
  if n < 0x10000 then [n]
  else [0xD800 + (n - 0x10000) / 0x400, 0xDC00 + (n - 0x10000) % 0x400]

/-- Whether a unit is the first of two. -/
def isFirst (unit : Nat) : Bool := 0xD800 ≤ unit && unit < 0xDC00

/-- Whether a unit is the second of two. -/
def isSecond (unit : Nat) : Bool := 0xDC00 ≤ unit && unit < 0xE000

/-- The character in the place of a unit that should be one of two. -/
def replacement : Char := '\uFFFD'

/-- The characters that units stand for. -/
def charsOf : List Nat → List Char
  | [] => []
  | [unit] => [if isFirst unit || isSecond unit then replacement else Char.ofNat unit]
  | unit :: next :: rest =>
    if isFirst unit && isSecond next then
      Char.ofNat (0x10000 + (unit - 0xD800) * 0x400 + (next - 0xDC00)) :: charsOf rest
    else
      (if isFirst unit || isSecond unit then replacement else Char.ofNat unit) ::
        charsOf (next :: rest)

/-- The bytes of a unit. -/
def unitBytes (encoding : Encoding) (unit : Nat) : Bytes :=
  if encoding = utf16LowFirst then (bytesOf 2 unit).reverse else bytesOf 2 unit

/-- The units in bytes; a single byte at the end is left out. -/
def unitsIn (encoding : Encoding) : Bytes → List Nat
  | a :: b :: rest =>
    unsigned (if encoding = utf16LowFirst then [b, a] else [a, b]) :: unitsIn encoding rest
  | _ => []

/-- A text in bytes. -/
def encode (encoding : Encoding) (s : String) : Bytes :=
  match encoding with
  | utf8 => s.toUTF8.data.toList
  | _ => (s.toList.flatMap unitsOf).flatMap encoding.unitBytes

/-- The text in bytes, if they hold one. -/
def decode? (encoding : Encoding) (bytes : Bytes) : Option String :=
  match encoding with
  | utf8 => String.fromUTF8? ⟨bytes.toArray⟩
  | _ => some (String.ofList (charsOf (encoding.unitsIn bytes)))

end Encoding

end Screener.Database
