/-
Making a database ready for use: nothing is done, the tables are made, or it is made sure that
migrations have been run.
-/
import GrantKeeper.Config.Settings
import GrantKeeper.Database.Address
import GrantKeeper.Database.Schema
import GrantKeeper.Journal

namespace GrantKeeper

/-- What is done to make a database ready. -/
inductive InitMode where
  | off
  | createAll
  | migrate
  deriving DecidableEq, Repr

/-- The mode that a text names, in any case of letters and with blanks around it. -/
def InitMode.ofText? (s : String) : Option InitMode :=
  let name := Text.trim s.toLower
  if name = "off" then some .off
  else if name = "create_all" then some .createAll
  else if name = "migrate" then some .migrate
  else none

/-- A database as far as its preparation is concerned: one whose tables can be listed, or one that
is asked for the table of migrations and gives an answer. -/
inductive Database where
  | listed (tables : List String)
  | asked (answer : Claim)

namespace Database

def hasMigrations : Database → Bool
  | .listed tables => tables.contains Table.migrations
  | .asked answer => answer.truthy

/-- Whether there is a table of a name among others. The case of ASCII letters does not tell tables
apart, so none can be made beside one of the same letters. -/
def isTaken (name : String) (tables : List String) : Bool :=
  tables.any (·.toLower == name.toLower)

/-- The database with the table of authorizations, made if there is none. -/
def withTables : Database → Database
  | .listed tables =>
    if isTaken Table.authorizations.name tables then .listed tables
    else .listed (tables ++ [Table.authorizations.name])
  | db => db

/-- What a database is asked to find the table of migrations. -/
def queries (s : Settings) : Database → List String
  | .listed _ => []
  | .asked _ =>
    if InitMode.ofText? s.initMode = some .migrate then
      ["SELECT to_regclass('public.alembic_version')"]
    else []

/-- The database made ready as settings say. -/
def prepare (s : Settings) (db : Database) : Traced Database :=
  match InitMode.ofText? s.initMode with
  | some .off => do
    Traced.note .info "DB initialization check skipped (DB_INIT_MODE=off)"
    pure db
  | some .createAll => do
    Traced.note .warning
      "Using create_all database initialization (recommended only for local development)."
    pure db.withTables
  | some .migrate =>
    if s.requireHead && !db.hasMigrations then Traced.fault (.unreadiness .migrationsMissing)
    else do
      Traced.note .info "Migration metadata detected."
      pure db
  | none => Traced.fault (.unreadiness (.unknownMode s.initMode))

/-- The database after its preparation: as it was, where that failed. -/
def after (db : Database) (operation : Traced Database) : Database :=
  match operation.outcome with
  | .ok db' => db'
  | .error _ => db

end Database
end GrantKeeper
