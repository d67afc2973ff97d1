/-
The written form of claims: JSON text in which non-ASCII characters stay as they are.

Sets are written as lists in the order of their items' texts and timestamps as ISO 8601 texts.
`Claim.fault?` says why a claim cannot be written; `Claim.written` writes every claim for which it
says nothing.
-/
import GrantKeeper.Claim.Text

namespace GrantKeeper

open Text

/-- Why a claim has no written form. -/
inductive WriteFault where
  | handle
  | binary
  | oversized
  deriving DecidableEq, Repr

def WriteFault.message : WriteFault → String
  | .handle => "Object of type object is not JSON serializable"
  | .binary => "Object of type bytes is not JSON serializable"
  | .oversized => "Exceeds the limit (4300 digits) for integer string conversion; " ++
      "use sys.set_int_max_str_digits() to increase the limit"

namespace Json

/-! ## Texts -/

/-- One character inside a written text. -/
def escaped (c : Char) : List Char :=
  if c = doubleQuote then ['\\', doubleQuote]
  else if c = '\\' then ['\\', '\\']
  else if c = '\n' then ['\\', 'n']
  else if c = '\r' then ['\\', 'r']
  else if c = '\t' then ['\\', 't']
  else if c.toNat = 0x08 then ['\\', 'b']
  else if c.toNat = 0x0C then ['\\', 'f']
  else if c.toNat < 0x20 then '\\' :: 'u' :: paddedHex 4 c.toNat
  else [c]

def writtenText (s : String) : List Char :=
  doubleQuote :: s.toList.flatMap escaped ++ [doubleQuote]

/-- A written floating-point number. -/
def writtenReal : Binary64 → List Char
  | .nan => "NaN".toList
  | .infinite negative => if negative then "-Infinity".toList else "Infinity".toList
  | x => x.text

/-- Values in the order of their keys, values with one key in the order they came. -/
def byKey (pairs : List (String × α)) : List α :=
  (pairs.mergeSort fun a b => decide (a.1 ≤ b.1)).map (·.2)

theorem perm_byKey (pairs : List (String × α)) : (byKey pairs).Perm (pairs.map (·.2)) :=
  (List.mergeSort_perm _ _).map _

end Json

namespace Claim

open Json

/-! ## Writing -/

mutual

/-- The written form of a claim. What has none is written as null. -/
def written : Claim → List Char
  | .null | .binary _ | .handle => "null".toList
  | .bool b => if b then "true".toList else "false".toList
  | .int n => decimalInt n
  | .real x => writtenReal x
  | .text s => writtenText s
  | .time t => writtenText t.isoText
  | .list items => '[' :: commaJoined (writtenItems items) ++ [']']
  | .set items => '[' :: commaJoined (byKey (keyedItems items)) ++ [']']
  | .map entries => '\x7b' :: commaJoined (writtenEntries entries) ++ ['\x7d']

def writtenItems : List Claim → List (List Char)
  | [] => []
  | x :: xs => written x :: writtenItems xs

/-- The written items of a set, each under its text. -/
def keyedItems : List Claim → List (String × List Char)
  | [] => []
  | x :: xs => (x.toText, written x) :: keyedItems xs

def writtenEntries : List (String × Claim) → List (List Char)
  | [] => []
  | (key, x) :: xs => (writtenText key ++ ':' :: ' ' :: written x) :: writtenEntries xs

end

/-! ## Faults -/

mutual

/-- Why a claim cannot be written: the first fault in the order of writing. The items of a set have
to have a text, all of them, before the first is written. -/
def fault? : Claim → Option WriteFault
  | .int n => if oversized n then some .oversized else none
  | .binary _ => some .binary
  | .handle => some .handle
  | .list items => itemsFault? items
  | .set items =>
    if anyOversized items then some .oversized
    else (byKey (keyedFaults items)).findSome? id
  | .map entries => entriesFault? entries
  | _ => none

/-- The first fault among the items of a list. -/
def itemsFault? : List Claim → Option WriteFault
  | [] => none
  | x :: xs => (fault? x).or (itemsFault? xs)

/-- The faults of the items of a set, each under its item's text. -/
def keyedFaults : List Claim → List (String × Option WriteFault)
  | [] => []
  | x :: xs => (x.toText, fault? x) :: keyedFaults xs

/-- The first fault among the entries of a map. -/
def entriesFault? : List (String × Claim) → Option WriteFault
  | [] => none
  | (_, x) :: xs => (fault? x).or (entriesFault? xs)

end

end Claim

/-- The JSON text of a claim map, or why it has none. -/
def Claims.toJson (claims : Claims) : Except WriteFault String :=
  match Claim.fault? (.map claims) with
  | some fault => .error fault
  | none => .ok (String.ofList (Claim.written (.map claims)))

end GrantKeeper
