/-
Levels of a log: the names by which they are set and shown.
-/
import GrantKeeper.Number.Decimal

namespace GrantKeeper

/-- Why a name sets no level. -/
inductive LevelFault where
  /-- The name means nothing to the log. -/
  | unknown
  /-- The name is that of a line format. -/
  | format
  /-- The name is that of the table of formats. -/
  | formatTable
  deriving DecidableEq, Repr

namespace LogLevel

def named : List (String × Nat) := [
  ("CRITICAL", 50), ("FATAL", 50), ("ERROR", 40), ("WARNING", 30), ("WARN", 30), ("INFO", 20),
  ("DEBUG", 10), ("NOTSET", 0)]

/-- The upper case of a character as far as it is ASCII: beside that of ASCII letters, two more
letters and the ligatures have one. -/
def upper (c : Char) : List Char :=
  match c.toNat with
  | 0xDF => ['S', 'S']
  | 0x131 => ['I']
  | 0x17F => ['S']
  | 0xFB00 => ['F', 'F']
  | 0xFB01 => ['F', 'I']
  | 0xFB02 => ['F', 'L']
  | 0xFB03 => ['F', 'F', 'I']
  | 0xFB04 => ['F', 'F', 'L']
  | 0xFB05 | 0xFB06 => ['S', 'T']
  | _ => [c.toUpper]

/-- The level that a name sets, in any case of letters. -/
def ofName (name : String) : Except LevelFault Nat :=
  let name := String.ofList (name.toList.flatMap upper)
  match named.lookup name with
  | some level => .ok level
  | none =>
    if name = "BASIC_FORMAT" then .error .format
    else if name = "_STYLES" then .error .formatTable
    else .error .unknown

/-- The name under which a level is shown: its first one, or its number. -/
def shown (level : Int) : String :=
  match named.find? fun (_, n) => (n : Int) == level with
  | some (name, _) => name
  | none =>
    let number := String.ofList (decimalInt level)
    s!"Level {number}"

end LogLevel
end GrantKeeper
