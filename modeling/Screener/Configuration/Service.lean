import Screener.Configuration.Scan
import Screener.Records.Directory
import Screener.Watchlist.Archive

/-!
# Services from configurations

A configuration is turned into a market, a place for watchlists and the settings of a scan.
Databases are opened here, so that a scan does not start without one.
-/

namespace Screener

open Database

variable {m : Type → Type} [Monad m] [Files m]

/-- Opens the database with an address.  One without a file is like a shelf, but of no use if it
cannot be changed. -/
def openDatabase (written : String) : m (Attempt (Keeper (StateT Shelf m))) := do
  match Address.read written with
  | .error reason => return fail (Archive.noConnection reason)
  | .ok address =>
    match address.path with
    | none =>
      if address.isReadOnly then return fail (Archive.failure .readOnly)
      else return .ok Shelf.keeper
    | some path =>
      let archive : Archive := ⟨Path.shortened path, address.isReadOnly⟩
      return ((← archive.connect address.access written).map fun _ =>
        archive.keeper.lift).mapError .failure

/-- Opens a place for watchlists.  A database without connections cannot be used at all. -/
def Storage.open : Storage → m (Attempt (Keeper (StateT Shelf m)))
  | memory => return .ok Shelf.keeper
  | database address connections =>
    if connections = 0 then return .error (.crash "max_size must be positive")
    else openDatabase address

namespace ScanConfiguration

/-- The place for watchlists of a configuration. -/
def openStorage (file : KeyFile) : m (Attempt (Keeper (StateT Shelf m))) :=
  match storage file with
  | .ok storage => storage.open
  | .error failure => return fail failure

/-- The service of a configuration.  The data is looked at first, then the settings, and the place
for watchlists last. -/
def service [Tasks m] (file : KeyFile) : m (Attempt (Service (StateT Shelf m))) :=
  match (do return (← dataPath file, ← settings file) : Except Failure (String × Settings)) with
  | .error failure => return fail failure
  | .ok (path, settings) => do
    return (← openStorage file).map fun keeper =>
      { market := (MarketDirectory.market path).lift, keeper, settings, startTask := Tasks.start }

end ScanConfiguration

end Screener
