import Screener.Failure
import Screener.File.Access
import Screener.KeyFile

/-!
# Reading configurations

Key files are read from a path or from a text at hand; what is wrong with one is a failure that
names the file.
-/

namespace Screener.KeyFile

/-- The key file that a text holds; the text is in no file. -/
def ofText (text : String) : Except Failure KeyFile :=
  (read text).mapError (.configParse "<inline>")

/-- The key file that was read from a path. -/
def ofContent (path : String) (content : Except SystemError String) : Except Failure KeyFile :=
  ((content.mapError SystemError.message).bind read).mapError fun reason =>
    .configParse path ("couldn't read " ++ path ++ ": " ++ reason)

/-- Reads the key file at a path. -/
def load {m : Type → Type} [Monad m] [Files m] (path : String) : m (Except Failure KeyFile) :=
  return ofContent path (← Files.readText path)

end Screener.KeyFile
