/-!
# Errors of databases

Why a database could not be opened, read or changed.
-/

namespace Screener

/-- Why a database refused. -/
inductive DatabaseError where
  /-- There is no file to open, and none can be made. -/
  | cannotOpen
  /-- A file cannot be read although it is there. -/
  | cannotRead
  /-- A file holds something else. -/
  | notDatabase
  /-- A file starts like a database but breaks the rules of its format. -/
  | malformed
  /-- A file has a later version of the format. -/
  | unsupported
  | readOnly
  deriving Repr, DecidableEq

/-- The wording of a refusal. -/
def DatabaseError.message : DatabaseError → String
  | cannotOpen => "unable to open database file"
  | cannotRead => "disk I/O error"
  | notDatabase => "file is not a database"
  | malformed => "database disk image is malformed"
  | unsupported => "unsupported file format"
  | readOnly => "attempt to write a readonly database"

end Screener
