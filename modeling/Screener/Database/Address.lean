import Screener.Database.Error
import Screener.Database.Number
import Screener.Text.Pieces

/-!
# Addresses of databases

An address says which database is meant and how it may be used.  Mostly it is the path of a file.
An address that starts with `file:` is a URI: an authority that means this computer, a path, and
options, with bytes that may be written as a percent sign and two digits.
-/

namespace Screener.Database

/-- What may be done with a database. -/
inductive Access where
  /-- It is not kept in a file. -/
  | memory
  | readOnly
  | readWrite
  /-- It may also be made if it is not there. -/
  | create
  deriving Repr, DecidableEq

namespace Access

/-- The words for the ways of access. -/
def words : List (String × Access) :=
  [("ro", readOnly), ("rw", readWrite), ("rwc", create), ("memory", memory)]

/-- The files that allow more have a higher rank. -/
def rank : Access → Nat
  | memory => 0
  | readOnly => 1
  | readWrite => 2
  | create => 3

/-- Whether another access may be asked for: no more than there is, but anything in memory. -/
def allows (access other : Access) : Bool := access = memory || other.rank ≤ access.rank

end Access

/-- Which database is meant, and how it may be used. -/
structure Address where
  /-- The path of its file; a database without a file lasts as long as the run. -/
  path : Option String
  access : Access
  /-- Whether nothing may change although the access allows it. -/
  isFixed : Bool := false
  deriving Repr, DecidableEq

namespace Address

/-! ## Percent signs -/

/-- The value of a hexadecimal digit. -/
def hexDigit? (byte : UInt8) : Option Nat :=
  let c := Char.ofNat byte.toNat
  if c.isDigit then some (c.toNat - '0'.toNat)
  else if 'a' ≤ c.toLower ∧ c.toLower ≤ 'f' then some (c.toLower.toNat - 'a'.toNat + 10)
  else none

/-- The bytes that are meant.  A zero byte ends them. -/
def decode : Bytes → Bytes
  | [] => []
  | percent :: a :: b :: rest =>
    if percent = '%'.toNat.toUInt8 then
      match hexDigit? a, hexDigit? b with
      | some high, some low =>
        let n := 16 * high + low
        if n = 0 then [] else n.toUInt8 :: decode rest
      | _, _ => percent :: decode (a :: b :: rest)
    else percent :: decode (a :: b :: rest)
  | byte :: rest => byte :: decode rest

/-- The text that is meant; bytes that are no text stand for characters of their own. -/
def decodeText (cs : List Char) : String :=
  let bytes := decode (String.ofList cs).toUTF8.data.toList
  (String.fromUTF8? ⟨bytes.toArray⟩).getD
    (String.ofList (bytes.map fun byte => Char.ofNat byte.toNat))

/-! ## Options -/

/-- A name and a value. -/
def readOption (cs : List Char) : String × String :=
  match Text.splitFirst '=' cs with
  | some (name, value) => (decodeText name, decodeText value)
  | none => (decodeText cs, "")

/-- The options of a query; those without a name do not count. -/
def readOptions (query : List Char) : List (String × String) :=
  ((query.splitOn '&').map readOption).filter (!·.1.isEmpty)

/-- The access after an option, or why it is refused. -/
def useOption (access : Access) : String × String → Except String Access
  | ("cache", value) =>
    if value ∈ ["shared", "private"] then .ok access else .error ("no such cache mode: " ++ value)
  | ("mode", value) =>
    match Access.words.lookup value with
    | none => .error ("no such access mode: " ++ value)
    | some other =>
      if access.allows other then .ok other else .error ("access mode not allowed: " ++ value)
  | _ => .ok access

/-- The systems that keep databases in files. -/
def fileSystems : List String := ["unix", "unix-none", "unix-dotfile", "unix-excl"]

/-- The system that keeps databases in memory. -/
def memorySystem : String := "memdb"

/-- Whether the value of an option switches it on: a number does unless its lowest byte is zero. -/
def isSwitchedOn (value : String) : Bool :=
  let digits := value.toList.takeWhile Char.isDigit
  if digits.isEmpty then value.toLower ∈ ["on", "yes", "true"]
  else
    let n := digits.foldl (fun n c => 10 * n + (c.toNat - '0'.toNat)) 0
    n < 2147483648 && n % 256 ≠ 0

/-! ## Addresses -/

/-- The path of a database that has no file. -/
def memoryPath : String := ":memory:"

/-- Whether a database may not be changed. -/
def isReadOnly (address : Address) : Bool := address.isFixed || address.access = .readOnly

/-- The address with a path and an access. -/
def ofPath (path : String) (access : Access) (isFixed : Bool) : Address :=
  if path.isEmpty ∨ path = memoryPath ∨ access = .memory then { path := none, access }
  else { path := some path, access, isFixed }

/-- Reads a path with options. -/
def ofLocation (cs : List Char) : Except String Address := do
  let cs := cs.takeWhile (· ≠ '#')
  let path := decodeText (cs.takeWhile (· ≠ '?'))
  let options := readOptions ((cs.dropWhile (· ≠ '?')).drop 1)
  let access ← options.foldlM useOption Access.create
  let system := (options.reverse.lookup "vfs").getD "unix"
  let isFixed := ((options.lookup "immutable").map isSwitchedOn).getD false
  if system = memorySystem then return { path := none, access, isFixed }
  if system ∉ fileSystems then throw ("no such vfs: " ++ system)
  return ofPath path access isFixed

/-- Reads the part of a URI after its scheme. -/
def ofUri (cs : List Char) : Except String Address :=
  match cs with
  | '/' :: '/' :: rest =>
    let authority := String.ofList (rest.takeWhile (· ≠ '/'))
    if authority ∈ ["", "localhost"] then ofLocation (rest.dropWhile (· ≠ '/'))
    else .error ("invalid uri authority: " ++ authority)
  | cs => ofLocation cs

/-- Reads an address, or tells why it is refused. -/
def read (text : String) : Except String Address :=
  let before := text.toList.takeWhile (· ≠ '\x00')
  if before.length < text.length then
    .error ("nul byte found in provided data at position: " ++ toString (Text.byteLength before))
  else match "file:".toList.isPrefixOf? text.toList with
    | some rest => ofUri rest
    | none => .ok (ofPath text .create false)

end Address

end Screener.Database
