/-
The command line: settings come from the environment and the file `.env`, the tables that the
database has from standard input, a name a line. The log goes to its file and to standard error, and
the tables that there are afterwards to standard output.
-/
import GrantKeeper.Database.Engine
import GrantKeeper.Startup
import Std.Time.DateTime

namespace GrantKeeper
namespace CommandLine

/-- The settings among the variables of the environment. -/
def environment : IO (List (String × String)) :=
  Settings.names.filterMapM fun name => do
    let value ← IO.getEnv name
    return value.map (name, ·)

/-- The text of a file, if there is one. -/
def contents (path : String) : IO (Option String) :=
  try return some (← IO.FS.readFile path) catch _ => return none

def directoryOf (path : String) : String :=
  String.intercalate "/" (path.splitOn "/").dropLast

/-- The time that log lines begin with. -/
def clockText : IO String := do
  let now ← Std.Time.Timestamp.now
  match Moment.ofEpochMicros? (now.toNanosecondsSinceUnixEpoch.toInt / 1000) with
  | some m => return String.ofList ((Timestamp.naive m).textWith ' ')
  | none => return ""

/-- The lines that standard input holds. -/
partial def inputLines (input : IO.FS.Stream) : IO (List String) := do
  let line ← input.getLine
  if line.isEmpty then return []
  let rest ← inputLines input
  return line.trimAscii.toString :: rest

/-- Writes lines to a log file and to standard error. -/
def writeLog (path : String) (lines : List String) : IO Unit := do
  let directory := directoryOf path
  if directory ≠ "" then IO.FS.createDirAll directory
  IO.FS.withFile path .append fun file => lines.forM file.putStrLn
  lines.forM fun line => IO.eprintln line

/-- What is said of a fault that ends the program. -/
def report : Fault → String
  | .unreadiness reason => reason.message
  | .failure failure => failure.message
  | .invalid issues =>
    let fields := issues.flatMap fun issue => issue.path.filterMap fun
      | .field name => some name
      | .item _ => none
    "Invalid settings: " ++ String.intercalate ", " fields
  | _ => "Invalid settings"

def start (settings : Settings) : IO UInt32 := do
  let tables ← inputLines (← IO.getStdin)
  match Startup.run settings (.listed (tables.filter (· ≠ ""))) with
  | .error _ =>
    IO.eprintln s!"Unknown LOG_LEVEL: {settings.logLevel}"
    return 1
  | .ok started =>
    let lines := LogRecord.lines started.level (← clockText) started.records
    writeLog (settings.logPath ".") lines
    if let .listed tables := started.database then tables.forM fun name => IO.println name
    match started.outcome with
    | .ok () => return 0
    | .error fault =>
      IO.eprintln (report fault)
      return 1

end CommandLine
end GrantKeeper

def main : IO UInt32 := do
  let environment ← GrantKeeper.CommandLine.environment
  let file ← GrantKeeper.CommandLine.contents ".env"
  match (GrantKeeper.Settings.gather [] environment file).map GrantKeeper.Checked.toExcept with
  | .ok (.ok settings) => GrantKeeper.CommandLine.start settings
  | .ok (.error fault) =>
    IO.eprintln (GrantKeeper.CommandLine.report fault)
    return 1
  | .error _ => return 2
