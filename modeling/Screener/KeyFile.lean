import Screener.Decimal.Reader
import Screener.Text.Blank
import Screener.Text.Pieces

/-!
# Key files

Settings are kept in text files: a heading in brackets opens a section, and each further line gives
a key and its value.  Everything from a semicolon or a number sign on is a comment.  Sections of the
same name are one section, and of several values for a key the last one counts.
-/

namespace Screener

/-- What a line of a key file says. -/
inductive KeyFile.Line where
  | blank
  | heading (name : String)
  | entry (key : String) (value : Option String)
  deriving Repr, DecidableEq

/-- What is wrong with a line of a key file. -/
inductive KeyFile.Fault where
  | openHeading
  | emptyKey
  deriving Repr, DecidableEq

/-- A key of a section, with its value if one was given. -/
structure KeyFile.Entry where
  sectionName : String
  key : String
  value : Option String
  deriving Repr, DecidableEq

/-- The sections of a file and its entries. -/
structure KeyFile where
  headings : List String
  /-- The entries in the order of the file, last one first. -/
  entries : List KeyFile.Entry
  deriving Repr, DecidableEq

namespace KeyFile

open Text

/-- The wording of a fault in the line with a number.  A key can only be empty if the line starts
with the delimiter, so this stands at the first byte. -/
def Fault.message (number : Nat) : Fault → String
  | .openHeading =>
    "line " ++ toString number ++
      ": Found opening bracket for section name but no closing bracket"
  | .emptyKey => "line " ++ toString number ++ ":0: Key cannot be empty"

/-- The characters that start a comment. -/
def isCommentMark (c : Char) : Bool := c = ';' || c = '#'

/-- The characters between a key and its value. -/
def isDelimiter (c : Char) : Bool := c = '=' || c = ':'

/-- The text before the last closing bracket, if there is one. -/
def beforeLastBracket (cs : List Char) : Option (List Char) :=
  match cs.reverse.dropWhile (· ≠ ']') with
  | [] => none
  | _ :: before => some before.reverse

/-- A line without its comment and without blank characters at its ends. -/
def content (line : List Char) : List Char :=
  trim ((trim line).takeWhile (!isCommentMark ·))

/-- What a line says.  A heading ends at its last closing bracket; without a delimiter the whole
line is a key. -/
def Line.read (line : List Char) : Except Fault Line :=
  match content line with
  | [] => .ok .blank
  | '[' :: rest =>
    match beforeLastBracket rest with
    | some name => .ok (.heading (String.ofList (trim name)))
    | none => .error .openHeading
  | text =>
    let key := trim (text.takeWhile (!isDelimiter ·))
    match text.dropWhile (!isDelimiter ·) with
    | [] => .ok (.entry (String.ofList text) none)
    | _ :: value =>
      if key.isEmpty then .error .emptyKey
      else .ok (.entry (String.ofList key) (some (String.ofList (trim value))))

/-- The file without sections. -/
def empty : KeyFile := ⟨[], []⟩

/-- The section of the keys that stand before the first heading. -/
def unnamedSection : String := "default"

/-- Adds the lines from a numbered one on to what the lines before it say; `current` is the section
that they belong to. -/
def readFrom (number : Nat) (current : String) (file : KeyFile) :
    List (List Char) → Except String KeyFile
  | [] => .ok file
  | line :: rest =>
    match Line.read line with
    | .error fault => .error (fault.message number)
    | .ok .blank => readFrom (number + 1) current file rest
    | .ok (.heading name) =>
      readFrom (number + 1) name { file with headings := name :: file.headings } rest
    | .ok (.entry key value) =>
      readFrom (number + 1) current
        ⟨current :: file.headings, ⟨current, key, value⟩ :: file.entries⟩ rest

/-- The key file that a text holds, or what is wrong with its first faulty line. -/
def read (text : String) : Except String KeyFile :=
  readFrom 1 unnamedSection empty (lines text.toList)

/-- Whether the file has a section. -/
def hasSection (file : KeyFile) (sectionName : String) : Bool :=
  file.headings.contains sectionName || file.entries.any (·.sectionName = sectionName)

/-- The last value of a key. -/
def value? (file : KeyFile) (sectionName key : String) : Option String :=
  match file.entries.find? fun entry => entry.sectionName = sectionName && entry.key = key with
  | some entry => entry.value
  | none => none

/-- The value of a key, unless it is blank. -/
def string? (file : KeyFile) (sectionName key : String) : Option String :=
  (file.value? sectionName key).filter fun value => !(trim value.toList).isEmpty

/-- The value of a key as an integer of 64 bits; anything else counts as `default`. -/
def integer (file : KeyFile) (sectionName key : String) (default : Int) : Int :=
  ((file.value? sectionName key).bind (Decimal.readInt64? ·.toList)).getD default

/-- The parts of a value between its commas, without blank parts. -/
def list? (file : KeyFile) (sectionName key : String) : Option (List String) :=
  (file.string? sectionName key).map fun value =>
    (((value.toList.splitOn ',').map trim).filter (!·.isEmpty)).map String.ofList

end KeyFile

end Screener
