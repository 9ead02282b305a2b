/-!
# Errors of the file system

Why a file or directory could not be read or written, worded as the system words it.
-/

namespace Screener

/-- Why the file system refused. -/
inductive SystemError where
  | notFound
  | notDirectory
  | isDirectory
  | alreadyExists
  | nameTooLong
  /-- A path holds a zero byte. -/
  | zeroInPath
  /-- A file that should be read as a text is none. -/
  | notText
  | other (message : String)
  deriving Repr, DecidableEq

/-- The wording of a refusal. -/
def SystemError.message : SystemError → String
  | notFound => "No such file or directory (os error 2)"
  | notDirectory => "Not a directory (os error 20)"
  | isDirectory => "Is a directory (os error 21)"
  | alreadyExists => "File exists (os error 17)"
  | nameTooLong => "File name too long (os error 36)"
  | zeroInPath => "file name contained an unexpected NUL byte"
  | notText => "stream did not contain valid UTF-8"
  | other message => message

end Screener
