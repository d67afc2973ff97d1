/-
Settings: what can be set, where settings come from, and what follows from them.

A setting among arguments counts before one given in the program, that before one of the
environment, that before one of a file, and all before the values settings have of their own.
-/
import GrantKeeper.Config.Arguments
import GrantKeeper.Config.Percent
import GrantKeeper.Form.Field

namespace GrantKeeper

/-- The settings of the library. -/
structure Settings where
  appName : String
  appVersion : String
  debug : Bool
  environment : String
  databaseUrl : String
  serverHost : String
  serverSocket : Int
  serverDatabase : String
  serverUser : String
  serverPassword : String
  poolSize : Int
  poolOverflow : Int
  logLevel : String
  logFile : String
  initMode : String
  requireHead : Bool
  deriving DecidableEq

namespace Settings

/-- The names of the settings in their order. -/
def names : List String := [
  "APP_NAME", "APP_VERSION", "DEBUG", "ENVIRONMENT", "DATABASE_URL", "POSTGRES_HOST",
  "POSTGRES_PORT", "POSTGRES_DB", "POSTGRES_USER", "POSTGRES_PASSWORD", "DATABASE_POOL_SIZE",
  "DATABASE_MAX_OVERFLOW", "LOG_LEVEL", "LOG_FILE", "DB_INIT_MODE", "DB_REQUIRE_HEAD"]

/-- The settings under their names. -/
def fields (s : Settings) : Claims := [
  ("APP_NAME", .text s.appName),
  ("APP_VERSION", .text s.appVersion),
  ("DEBUG", .bool s.debug),
  ("ENVIRONMENT", .text s.environment),
  ("DATABASE_URL", .text s.databaseUrl),
  ("POSTGRES_HOST", .text s.serverHost),
  ("POSTGRES_PORT", .int s.serverSocket),
  ("POSTGRES_DB", .text s.serverDatabase),
  ("POSTGRES_USER", .text s.serverUser),
  ("POSTGRES_PASSWORD", .text s.serverPassword),
  ("DATABASE_POOL_SIZE", .int s.poolSize),
  ("DATABASE_MAX_OVERFLOW", .int s.poolOverflow),
  ("LOG_LEVEL", .text s.logLevel),
  ("LOG_FILE", .text s.logFile),
  ("DB_INIT_MODE", .text s.initMode),
  ("DB_REQUIRE_HEAD", .bool s.requireHead)]

/-! ## From fields -/

/-- The known settings among fields, each with its own value where it is left out. -/
def ofKnown (fields : Claims) : Checked Settings :=
  Settings.mk
    <$> Form.field fields "APP_NAME" Form.text "OAuth2 Authorization Core"
    <*> Form.field fields "APP_VERSION" Form.text "1.0.0"
    <*> Form.field fields "DEBUG" Form.boolean false
    <*> Form.field fields "ENVIRONMENT" Form.text "development"
    <*> Form.field fields "DATABASE_URL" Form.text ""
    <*> Form.field fields "POSTGRES_HOST" Form.text "localhost"
    <*> Form.field fields "POSTGRES_PORT" Form.integer 5432
    <*> Form.field fields "POSTGRES_DB" Form.text "authcore_db"
    <*> Form.field fields "POSTGRES_USER" Form.text "authcore"
    <*> Form.field fields "POSTGRES_PASSWORD" Form.text "authcore"
    <*> Form.field fields "DATABASE_POOL_SIZE" Form.integer 30
    <*> Form.field fields "DATABASE_MAX_OVERFLOW" Form.integer 20
    <*> Form.field fields "LOG_LEVEL" Form.text "INFO"
    <*> Form.field fields "LOG_FILE" Form.text ""
    <*> Form.field fields "DB_INIT_MODE" Form.text "migrate"
    <*> Form.field fields "DB_REQUIRE_HEAD" Form.boolean true

/-- Nothing, if there are no fields but settings. -/
def noOthers (fields : Claims) : Checked Unit :=
  match fields.filter fun (name, _) => !names.contains name with
  | [] => .ok ()
  | others => .rejected (others.map fun (name, _) => ⟨[.field name], .unknownField⟩)

def ofFields (fields : Claims) : Checked Settings :=
  Function.const Unit <$> ofKnown fields <*> noOthers fields

/-! ## Sources -/

/-- The settings among variables. -/
def known (rules : SourceRules) (assigned : List (String × Option String)) : Claims :=
  names.filterMap fun name =>
    (assigned.lookup (rules.settingKey name)).join.map fun value => (name, rules.fieldValue value)

/-- The settings among the variables of an environment. Others are not looked at. -/
def environmentFields (rules : SourceRules) (environment : List (String × String)) : Claims :=
  known rules (rules.assigned (environment.map fun (name, value) => (name, some value)))

/-- The settings in a file of settings, and after them what it says under other names. -/
def fileFields (rules : SourceRules) (environment : List (String × String)) (file : String) :
    Claims :=
  let assigned := rules.assigned (EnvFile.resolve environment (EnvFile.bindings file))
  let isSetting (name : String) : Bool :=
    (names.map rules.settingKey).contains name || (rules.stem != "" && names.contains name)
  let others := assigned.filterMap fun (name, value) =>
    value.bind fun v => if v = "" ∨ isSetting name then none else some (name, Claim.text v)
  known rules assigned ++ others

/-- The settings that arguments can give, and whether one holds by itself that holds or does not. -/
def arguable : List (String × Option Bool) :=
  let switches := [("DEBUG", false), ("DB_REQUIRE_HEAD", true)]
  names.map fun name => (name, switches.lookup name)

/-- The settings from all their sources. Among the values given are arguments, and the rules by which
the other sources are read. `file` is the text of the file of settings, if there is one. -/
def gather (given : Claims) (environment : List (String × String)) (file : Option String) :
    Except SourceFault (Checked Settings) := do
  let rules := SourceRules.ofGiven given
  SourceRules.checkNames given
  let file ← SourceRules.fileText given file
  let arguments ← ArgumentRules.givenFields given rules.caseSensitive arguable
  SourceRules.checkRest given
  let kept := Claims.ofEntries (file.elim [] (fileFields rules environment))
  let outside := kept.overlay (environmentFields rules environment)
  let fields := given.filter fun (name, _) => !SourceRules.names.contains name
  return ofFields ((outside.overlay fields).overlay arguments)

/-! ## What follows -/

/-- The log file: the one set, unless that lies above the working directory. `base` is where the
logs are kept otherwise. -/
def logPath (s : Settings) (base : String) : String :=
  if s.logFile = "" ∨ "..".toList.isPrefixOf s.logFile.toList then base ++ "/logs/authcore.log"
  else s.logFile

/-- The address of the database: the one set, or one made of its parts, with the user and the
password in percent coding. -/
def databaseAddress (s : Settings) : String :=
  if s.databaseUrl ≠ "" then s.databaseUrl
  else
    let user := Percent.encode s.serverUser
    let password := Percent.encode s.serverPassword
    let socket := String.ofList (decimalInt s.serverSocket)
    s!"postgresql://{user}:{password}@{s.serverHost}:{socket}/{s.serverDatabase}"

end Settings
end GrantKeeper
