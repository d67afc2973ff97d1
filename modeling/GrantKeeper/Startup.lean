/-
Starting up: the log is set up, the program says what it is, and the database is made ready.
-/
import GrantKeeper.Database.Preparation
import GrantKeeper.Log.Record

namespace GrantKeeper

/-- What a start leads to: the database after it, the level and the records of the log, and whether
the database is ready. -/
structure Startup where
  database : Database
  level : Nat
  records : List LogRecord
  outcome : Except Fault Unit

namespace Startup

/-- The part of the program that says what it is. -/
def programLogger : String := "authcore"

/-- The part of the program that makes the database ready. -/
def databaseLogger : String := "authcore.core.database"

/-- What the program says of itself. -/
def banner (s : Settings) : String :=
  s!"{s.appName} {s.appVersion} ({s.environment})"

/-- A start with settings. Without a level for the log there is none. -/
def run (s : Settings) (db : Database) : Except LevelFault Startup := do
  let level ← LogLevel.ofName s.logLevel
  let operation := db.prepare s
  return {
    database := db.after operation
    level := level
    records := ⟨programLogger, Severity.info.level, banner s⟩ ::
      operation.entries.map (LogRecord.ofEntry databaseLogger)
    outcome := operation.outcome.map fun _ => () }

end Startup
end GrantKeeper
