/-
The text of a claim: what a claim is reported as where text is due, and the form of it inside a
list or a map, where texts are quoted.
-/
import GrantKeeper.Claim.Basic
import GrantKeeper.Number.RealText
import GrantKeeper.Text.Quoted

namespace GrantKeeper

open Text

/-! ## Timestamps and binary data -/

/-- Values separated by a comma and a blank. -/
def commaJoined (parts : List (List Char)) : List Char :=
  [',', ' '].intercalate parts

/-- A span of microseconds by days, seconds and microseconds, of which only days may be negative. -/
def spanText (micros : Int) : List Char :=
  let days := micros.fdiv (microsPerDay : Int)
  let rest := (micros.fmod (microsPerDay : Int)).toNat
  let part (name : String) (n : Int) : List (List Char) :=
    if n = 0 then [] else [name.toList ++ '=' :: decimalInt n]
  let parts := part "days" days ++ part "seconds" (rest / microsPerSecond : Nat) ++
    part "microseconds" (rest % microsPerSecond : Nat)
  "datetime.timedelta(".toList ++ (if parts = [] then ['0'] else commaJoined parts) ++ [')']

/-- A clock's offset, UTC by its name. -/
def Offset.quoted (offset : Offset) : List Char :=
  if offset.micros = 0 then "datetime.timezone.utc".toList
  else "datetime.timezone(".toList ++ spanText offset.micros ++ [')']

/-- A timestamp by its numbers, without seconds and microseconds where these are zero. -/
def Timestamp.quoted (t : Timestamp) : List Char :=
  let m := t.wall
  let seconds :=
    if m.micro ≠ 0 then [m.second, m.micro] else if m.second ≠ 0 then [m.second] else []
  let numbers := [m.year, m.month, m.dayOfMonth, m.hour, m.minute] ++ seconds
  let zone := t.offset.toList.map fun offset => "tzinfo=".toList ++ offset.quoted
  "datetime.datetime(".toList ++ commaJoined (numbers.map decimal ++ zone) ++ [')']

/-- One byte of binary data inside its quotes. -/
def quotedByte (quote : Char) (b : UInt8) : List Char :=
  let c := Char.ofNat b.toNat
  if b.toNat < 0x7F then quotedChar quote c else '\\' :: 'x' :: paddedHex 2 b.toNat

/-- Binary data, its ASCII characters as they are. -/
def quotedBinary (data : ByteArray) : List Char :=
  let bytes := data.toList
  let quote := quoteFor (bytes.map fun b => Char.ofNat b.toNat)
  'b' :: quote :: bytes.flatMap (quotedByte quote) ++ [quote]

/-! ## Claims -/

namespace Claim

def boolText (b : Bool) : List Char :=
  if b then "True".toList else "False".toList

mutual

/-- A claim as it is shown inside a list or a map. -/
def quoted : Claim → List Char
  | .null => "None".toList
  | .bool b => boolText b
  | .int n => decimalInt n
  | .real x => x.text
  | .text s => (Text.quoted s).toList
  | .time t => t.quoted
  | .binary data => quotedBinary data
  | .handle => "<object object>".toList
  | .list items => '[' :: commaJoined (quotedItems items) ++ [']']
  | .set items =>
    if items.isEmpty then "set()".toList
    else '\x7b' :: commaJoined (quotedItems items) ++ ['\x7d']
  | .map entries => '\x7b' :: commaJoined (quotedEntries entries) ++ ['\x7d']

def quotedItems : List Claim → List (List Char)
  | [] => []
  | x :: xs => quoted x :: quotedItems xs

def quotedEntries : List (String × Claim) → List (List Char)
  | [] => []
  | (key, x) :: xs => ((Text.quoted key).toList ++ ':' :: ' ' :: quoted x) :: quotedEntries xs

end

def toText : Claim → String
  | .text s => s
  | .time t => String.ofList (t.textWith ' ')
  | c => String.ofList (quoted c)

mutual

/-- Whether a claim holds an integer that is too long to be written. -/
def hasOversized : Claim → Bool
  | .int n => oversized n
  | .list items | .set items => anyOversized items
  | .map entries => anyOversizedEntry entries
  | _ => false

def anyOversized : List Claim → Bool
  | [] => false
  | x :: xs => hasOversized x || anyOversized xs

def anyOversizedEntry : List (String × Claim) → Bool
  | [] => false
  | (_, x) :: xs => hasOversized x || anyOversizedEntry xs

end

end Claim
end GrantKeeper
