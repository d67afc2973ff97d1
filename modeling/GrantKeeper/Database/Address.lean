/-
Addresses of databases: what they name and what is wrong with them.
-/
import GrantKeeper.Database.Query
import GrantKeeper.Form.Field
import GrantKeeper.Number.Reader
import GrantKeeper.Text.Case
import GrantKeeper.Text.Word

namespace GrantKeeper

/-- Why an address names no database. -/
inductive AddressFault where
  /-- The text is no address, or one with parts that its kind of database does not have. -/
  | unreadable
  /-- The socket is no number. -/
  | socket
  /-- A colon announces a socket and none follows. -/
  | emptySocket
  /-- There is no such kind of database, or no such extension. -/
  | unknownDialect
  /-- The driver for this kind of database is not there. -/
  | driverMissing
  /-- More than one driver is named. -/
  | severalDrivers
  /-- The value of an option is not of the kind that the option has. -/
  | option
  /-- An option that is a number is given several times. -/
  | repeatedOption
  /-- There are options for a file and no file. -/
  | noFile
  deriving DecidableEq, Repr

/-- A kind of database: one in a file, or one behind a server. -/
inductive Dialect where
  | file
  | server
  deriving DecidableEq, Repr

def Dialect.name : Dialect → String
  | .file => "sqlite"
  | .server => "postgresql"

/-- The parts of an address. -/
structure Address where
  scheme : String
  user : Option String
  password : Option String
  host : Option String
  socket : Option Int
  path : Option String
  query : Query
  deriving DecidableEq

namespace Address

/-! ## Parts -/

/-- The text before the first of some characters, and the text from there on. -/
def upTo (stops : List Char) (cs : List Char) : List Char × List Char :=
  (cs.takeWhile (!stops.contains ·), cs.dropWhile (!stops.contains ·))

/-- The text before the last occurrence of a character and the text behind it. -/
def cutAtLast? (c : Char) : List Char → Option (List Char × List Char)
  | [] => none
  | d :: rest =>
    match cutAtLast? c rest with
    | some (before, behind) => some (d :: before, behind)
    | none => if d = c then some ([], rest) else none

/-- The user and the password that begin the part behind the scheme, and what is behind them. -/
def credentials (cs : List Char) : Option String × Option String × List Char :=
  let (user, rest) := upTo [':', '/'] cs
  let whole :=
    match rest with
    | ':' :: secret =>
      match upTo ['@'] secret with
      | (password, '@' :: behind) =>
        some (some (String.ofList user), some (String.ofList password), behind)
      | _ => none
    | _ => none
  match whole with
  | some found => found
  | none =>
    match cutAtLast? '@' user with
    | some (name, behind) => (some (String.ofList name), none, behind ++ rest)
    | none => (none, none, cs)

/-- The host that begins a text, in brackets or bare, and what is behind it. -/
def readHost (cs : List Char) : Option String × List Char :=
  let bare : Option String × List Char :=
    match upTo ['/', ':', '?'] cs with
    | ([], _) => (none, cs)
    | (name, rest) => (some (String.ofList name), rest)
  match cs with
  | '[' :: inner =>
    let (name, _) := upTo ['/', '?'] inner
    match cutAtLast? ']' name with
    | some (c :: address, _) =>
      (some (String.ofList (c :: address)), inner.drop (address.length + 2))
    | _ => bare
  | _ => bare

/-- The socket that begins a text, and what is behind it. -/
def readSocket : List Char → Except AddressFault (Option Int × List Char)
  | ':' :: rest =>
    match upTo ['/', '?'] rest with
    | ([], _) => .error .emptySocket
    | (ds, behind) =>
      match wholeOfText? (String.ofList ds) with
      | some n => .ok (some n, behind)
      | none => .error .socket
  | cs => .ok (none, cs)

/-- The path that begins a text, and what is behind it. -/
def readPath : List Char → Option String × List Char
  | '/' :: rest =>
    let (path, behind) := upTo ['?'] rest
    (some (String.ofList path), behind)
  | cs => (none, cs)

/-- The options that begin a text. They end with the line. -/
def readQuery : List Char → Query
  | '?' :: rest => Query.parse (rest.takeWhile (· ≠ '\n'))
  | _ => []

/-- Whether a character can be in the name before the two slashes. -/
def isSchemeChar (c : Char) : Bool :=
  Text.isWord c || c == '+'

def parse (s : String) : Except AddressFault Address :=
  let scheme := s.toList.takeWhile isSchemeChar
  match scheme, s.toList.dropWhile isSchemeChar with
  | _ :: _, ':' :: '/' :: '/' :: rest => do
    let (user, password, rest) := credentials rest
    let (host, rest) := readHost rest
    let (socket, rest) ← readSocket rest
    let (path, rest) := readPath rest
    return ⟨String.ofList scheme, user, password, host, socket, path, readQuery rest⟩
  | _, _ => .error .unreadable

/-! ## Kinds of databases -/

/-- The drivers by which databases can be reached, under the names of the kinds. -/
def drivers : List (String × Dialect × List String) := [
  ("sqlite", .file, ["base", "pysqlite"]),
  ("postgresql", .server, ["base", "psycopg2"])]

/-- Drivers that are known and do not come with the library. -/
def absentDrivers : List (String × List String) := [
  ("sqlite", ["aiosqlite", "pysqlcipher"]),
  ("postgresql", ["asyncpg", "pg8000", "psycopg", "psycopg_async", "psycopg2cffi"]),
  ("mysql", ["base", "aiomysql", "asyncmy", "cymysql", "mariadbconnector", "mysqlconnector",
    "mysqldb", "pymysql", "pyodbc"]),
  ("mariadb", ["base", "aiomysql", "asyncmy", "cymysql", "mariadbconnector", "mysqlconnector",
    "mysqldb", "pymysql", "pyodbc"]),
  ("oracle", ["base", "cx_oracle", "oracledb", "oracledb_async"]),
  ("mssql", ["base", "aioodbc", "pymssql", "pyodbc"])]

/-- The name of a kind of database and that of the driver in a scheme. -/
def splitScheme (scheme : String) : Except AddressFault (String × String) :=
  match Text.pieces '+' scheme.toList with
  | [kind] => .ok (String.ofList kind, "base")
  | [kind, driver] => .ok (String.ofList kind, String.ofList driver)
  | _ => .error .severalDrivers

/-- The kind of database that a scheme names. -/
def dialectOf (scheme : String) : Except AddressFault Dialect := do
  let (kind, driver) ← splitScheme scheme
  match drivers.lookup kind with
  | some (dialect, here) =>
    if here.contains driver then return dialect
  | none => pure ()
  if ((absentDrivers.lookup kind).getD []).contains driver then throw .driverMissing
  throw .unknownDialect

/-! ## Options -/

/-- An option that holds or does not. One that is given several times holds. -/
def flag (query : Query) (name : String) : Except AddressFault Bool :=
  match query.values name with
  | [] => .ok false
  | [s] =>
    match Form.booleanTexts.lookup (Text.lower (Text.trim s)) with
    | some b => .ok b
    | none => .error .option
  | _ => .ok true

/-- Nothing, if an option is left out or is one number. -/
def number (read : String → Option α) (query : Query) (name : String) : Except AddressFault Unit :=
  match query.values name with
  | [] => .ok ()
  | [s] => if (read s).isSome then .ok () else .error .option
  | _ => .error .repeatedOption

/-- The options by which a file is opened. Others belong to the file. -/
def fileOptions : List String := [
  "uri", "timeout", "isolation_level", "detect_types", "check_same_thread", "cached_statements"]

/-- Nothing, if an address is one of a file: it has neither host nor user, and options can be read.
Options that belong to a file need one if the path is an address of its own. -/
def checkFile (a : Address) : Except AddressFault Unit := do
  let isPart (part : Option String) : Bool := part.any (· ≠ "")
  if isPart a.user || isPart a.password || isPart a.host || a.socket.any (· ≠ 0) then
    throw .unreadable
  let isAddress ← flag a.query "uri"
  number Binary64.ofText? a.query "timeout"
  number wholeOfText? a.query "detect_types"
  let _ ← flag a.query "check_same_thread"
  number wholeOfText? a.query "cached_statements"
  let others := a.query.filter fun option => !fileOptions.contains option.1
  if isAddress && a.path.isNone && !others.isEmpty then throw .noFile

/-- The texts of an option that lists them, with commas or by being given several times. -/
def listed (values : List String) : List (List Char) :=
  match values with
  | [s] => Text.pieces ',' s.toList
  | _ => values.map String.toList

/-- The hosts that options name, as a number of them, and the text of a socket for each. Several
hosts have their sockets with them or have none. -/
def hostsOf (query : Query) : Except AddressFault (Nat × List (List Char)) :=
  let hosts := query.values "host"
  let sockets := query.values "port"
  if hosts.length < 2 then
    .ok ((listed hosts).length, listed sockets)
  else
    let parts := hosts.map fun s => Text.pieces ':' s.toList
    if parts.all (2 < ·.length) then .error .option
    else if sockets.isEmpty then .ok (hosts.length, parts.map fun p => (p.drop 1).headD [])
    else .error .unreadable

/-- Nothing, if the hosts and sockets among the options of an address go together: sockets are
numbers, and there is one for each host. -/
def checkServer (a : Address) : Except AddressFault Unit := do
  let (hosts, sockets) ← hostsOf a.query
  let isSocket (ds : List Char) : Bool := ds.isEmpty || (wholeOfText? (String.ofList ds)).isSome
  if !sockets.all isSocket then throw .unreadable
  if sockets.length ≠ hosts && (1 < hosts || 1 < sockets.length) && !sockets.isEmpty then
    throw .unreadable

def dialect (a : Address) : Except AddressFault Dialect := do
  if !(a.query.values "plugin").isEmpty then throw .unknownDialect
  let dialect ← dialectOf a.scheme
  match dialect with
  | .file => checkFile a
  | .server => checkServer a
  return dialect

end Address
end GrantKeeper
