import Screener.Database.Address
import Screener.File.Access
import Screener.File.Path
import Screener.Watchlist.Layout

/-!
# Watchlists in database files

The tables of watchlists are kept in the file of a database.  They are defined when the database is
opened for the first time, and every save reads the file and writes it anew.
-/

namespace Screener

/-- A database file that is open. -/
structure Archive where
  path : String
  isReadOnly : Bool
  deriving Repr, DecidableEq

namespace Archive

open Database

/-- The failure that an error of a database is. -/
def failure (error : DatabaseError) : Failure := .storage error.message

/-- The failure to come by a connection. -/
def noConnection (reason : String) : Failure :=
  .storage ("timed out waiting for connection: " ++ reason)

variable {m : Type → Type} [Monad m] [Files m]

/-- The database in a file. -/
def load (archive : Archive) : m (Except DatabaseError Image) := do
  match ← Files.readBytes archive.path with
  | .ok content => return Image.read content
  | .error _ => return .error .cannotOpen

/-- The path of the file in which a change is prepared. -/
def journalPath (path : String) : String := path ++ "-journal"

/-- Puts a database in a file, if a change of it can be prepared. -/
def store (archive : Archive) (image : Image) : m (Except DatabaseError Unit) := do
  match ← Files.readBytes (journalPath archive.path) with
  | .ok _ | .error .notFound =>
    return (← Files.writeBytes archive.path image.bytes).mapError fun _ => .cannotOpen
  | .error _ => return .error .cannotOpen

/-- Changes the database in a file. -/
def change {α : Type} (archive : Archive) (f : Image → Except DatabaseError (α × Image)) :
    m (Except DatabaseError α) := do
  match ← archive.load with
  | .error e => return .error e
  | .ok image =>
    if archive.isReadOnly || image.isReadOnly then return .error .readOnly
    else match f image with
      | .error e => return .error e
      | .ok (value, image) => return (← archive.store image).map fun _ => value

/-- Finds the file of a database, or makes it if the access allows that. -/
def findFile (path : String) (access : Access) : m (Except DatabaseError Unit) := do
  match ← Files.readBytes path with
  | .ok _ => return .ok ()
  | .error .isDirectory => return .error (if access = .readOnly then .cannotRead else .cannotOpen)
  | .error .notFound =>
    if access = .create then
      return (← Files.writeBytes path .empty).mapError fun _ => .cannotOpen
    else return .error .cannotOpen
  | .error _ => return .error .cannotOpen

/-- Defines the tables in a database that lacks them. -/
def prepare (archive : Archive) : m (Except DatabaseError Unit) := do
  match (← archive.load).bind Catalogue.entries with
  | .error e => return .error e
  | .ok entries =>
    let definitions := Tables.missing entries
    if definitions.isEmpty then return .ok ()
    else archive.change fun image => do
      return ((), ← definitions.foldlM Catalogue.define image)

/-- Opens the file of a database.  If it cannot be opened, the failure tells its address as it was
written. -/
def connect (archive : Archive) (access : Access) (written : String) :
    m (Except Failure Unit) := do
  match ← findFile archive.path access with
  | .error .cannotOpen =>
    return .error (noConnection (DatabaseError.cannotOpen.message ++ ": " ++ written))
  | .error e => return .error (noConnection e.message)
  | .ok () => return (← archive.prepare).mapError failure

/-- Keeps watchlists in a database. -/
def keeper (archive : Archive) : Keeper m where
  save strategy tickers := do
    let saved ← archive.change fun image => do
      match (← Tables.ofImage image).save strategy tickers with
      | .error failure => return (.error failure, image)
      | .ok (list, tables) => return (.ok list, ← tables.putInto image)
    return ((saved.mapError failure).bind id).mapError .failure
  load strategy := do
    let found := (← archive.load).bind fun image => Tables.loadFrom image strategy
    return (found.mapError failure).mapError .failure

end Archive

end Screener
