/-
The options with which a database is opened. A database in a file manages its connections itself;
one behind a server has a pool of them.
-/
import GrantKeeper.Config.Settings
import GrantKeeper.Database.Address

namespace GrantKeeper

/-- A pool of connections; times are in seconds. An overflow of -1 has no bound. -/
structure Pool where
  size : Int
  overflow : Int
  timeout : Nat
  recycle : Nat
  prePing : Bool
  deriving DecidableEq

/-- The options of a database. -/
structure Engine where
  dialect : Dialect
  echo : Bool
  pool : Option Pool
  deriving DecidableEq

/-- The options for the database that settings name. A pool of no size has no bound, so it has none
on its overflow either. -/
def Settings.engine (s : Settings) : Except AddressFault Engine := do
  let address ← Address.parse s.databaseAddress
  let dialect ← address.dialect
  let overflow := if s.poolSize = 0 then -1 else s.poolOverflow
  let pool : Pool := ⟨s.poolSize, overflow, 30, 3600, true⟩
  return ⟨dialect, s.debug, if dialect = .file then none else some pool⟩

end GrantKeeper
