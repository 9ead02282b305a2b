/-!
# Numbers in bytes

Databases write the most significant byte of a number first.  A number has a fixed width, or it has
a variable one: seven bits to a byte, with a mark on every byte that another one follows, and eight
bits in a ninth byte, which is always the last.
-/

namespace Screener.Database

/-- A run of bytes. -/
abbrev Bytes := List UInt8

/-- The number that bytes stand for. -/
def unsigned (bytes : Bytes) : Nat := bytes.foldl (fun n byte => 256 * n + byte.toNat) 0

/-- The integer that bytes stand for, its sign in the first bit. -/
def signed (bytes : Bytes) : Int := (unsigned bytes : Int).bmod (Nat.pow 256 bytes.length)

/-- A number in so many bytes; what does not fit is cut off at the front. -/
def bytesOf : (width : Nat) → Nat → Bytes
  | 0, _ => []
  | width + 1, n => bytesOf width (n / 256) ++ [n.toUInt8]

@[simp] theorem length_bytesOf (width n : Nat) : (bytesOf width n).length = width := by
  induction width generalizing n with
  | zero => rfl
  | succ width ih => simp [bytesOf, ih]

/-- An integer in so many bytes. -/
def signedBytesOf (width : Nat) (n : Int) : Bytes :=
  bytesOf width (n % (Nat.pow 256 width : Nat)).toNat

/-- Seven bits to a byte, each byte with the mark that another one follows. -/
def marked : (count : Nat) → Nat → Bytes
  | 0, _ => []
  | count + 1, n => marked count (n / 128) ++ [(128 + n % 128).toUInt8]

/-- From here on, a number needs nine bytes. -/
def nineByteLimit : Nat := 72057594037927936

/-- A number of 64 bits with a variable width. -/
def varint (n : Nat) : Bytes :=
  if n < nineByteLimit then (marked 8 (n / 128)).dropWhile (· == 128) ++ [(n % 128).toUInt8]
  else marked 8 (n / 256) ++ [n.toUInt8]

/-- Reads on in a number with a variable width, of which so many marked bytes may follow. -/
def varintFrom? : (count : Nat) → Nat → Bytes → Option (Nat × Bytes)
  | _, _, [] => none
  | 0, n, byte :: rest => some (256 * n + byte.toNat, rest)
  | count + 1, n, byte :: rest =>
    if byte < 128 then some (128 * n + byte.toNat, rest)
    else varintFrom? count (128 * n + (byte.toNat - 128)) rest

/-- Reads a number with a variable width, and gives the bytes after it. -/
def varint? (bytes : Bytes) : Option (Nat × Bytes) := varintFrom? 8 0 bytes

/-- Reads numbers with variable widths, at most so many, to the end of the bytes. -/
def varints? : (count : Nat) → Bytes → Option (List Nat)
  | _, [] => some []
  | 0, _ :: _ => none
  | count + 1, bytes => do
    let (n, rest) ← varint? bytes
    return n :: (← varints? count rest)

/-- A number of 64 bits as an integer. -/
def asSigned (n : Nat) : Int := signed (bytesOf 8 n)

/-- An integer as a number of 64 bits. -/
def asUnsigned (n : Int) : Nat := unsigned (signedBytesOf 8 n)

end Screener.Database
