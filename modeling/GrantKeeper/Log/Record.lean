/-
Records of a log and the lines they are written as.
-/
import GrantKeeper.Journal
import GrantKeeper.Log.Level

namespace GrantKeeper

/-- What one part of a program has to say. -/
structure LogRecord where
  logger : String
  level : Int
  text : String
  deriving DecidableEq

def Severity.level : Severity → Int
  | .debug => 10
  | .info => 20
  | .warning => 30
  | .error => 40
  | .critical => 50

namespace LogRecord

def ofEntry (logger : String) (entry : Entry) : LogRecord :=
  ⟨logger, entry.severity.level, entry.message⟩

/-- Whether a record is written to a log of a level. One of level zero or below never is. -/
def isWritten (threshold : Nat) (r : LogRecord) : Bool :=
  0 < r.level && (threshold : Int) ≤ r.level

/-- The text of a record; its first line begins with the time. -/
def written (time : String) (r : LogRecord) : String :=
  let name := if r.logger = "" then "root" else r.logger
  let level := LogLevel.shown r.level
  s!"{time} - {name} - {level} - {r.text}"

/-- Whether a character ends a line: a line feed or carriage return, the tabulation and form feed
that move to another line, the separators of files, groups and records, and those of Unicode. -/
def isLineEnd (c : Char) : Bool :=
  let n := c.toNat
  (0x0A ≤ n && n ≤ 0x0D) || (0x1C ≤ n && n ≤ 0x1E) || n == 0x85 || n == 0x2028 || n == 0x2029

def linesOf : List Char → List (List Char)
  | [] => [[]]
  | '\r' :: '\n' :: rest => [] :: linesOf rest
  | c :: rest =>
    if isLineEnd c then [] :: linesOf rest
    else
      match linesOf rest with
      | [] => [[c]]
      | line :: lines => (c :: line) :: lines

/-- The lines of a log of a level, with the same time for each record. -/
def lines (threshold : Nat) (time : String) (records : List LogRecord) : List String :=
  (records.filter (·.isWritten threshold)).flatMap fun r =>
    (linesOf (r.written time).toList).map String.ofList

end LogRecord
end GrantKeeper
