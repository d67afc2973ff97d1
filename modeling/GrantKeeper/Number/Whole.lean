/-
Integers written by people, as fields of forms take them: white space around the number, a sign,
zeros that lead it, single underscores between digits, and at most a point with zeros behind it.

The text is cleaned step by step, so that a number between whose leading zeros a sign stands is read
from that sign on.
-/
import GrantKeeper.Number.Decimal
import GrantKeeper.Text.Blank
import GrantKeeper.Text.Digit

namespace GrantKeeper
namespace Whole

open Text

/-- Why a text is no integer. -/
inductive ReadFault where
  | unreadable
  /-- It has more characters than are read of an integer. -/
  | tooLong
  deriving DecidableEq, Repr

/-- The text after zeros and underscores. The character before a point or the end of the text is
kept, so that one zero is left where no other digit follows. -/
def afterZeros? (before : Char) : List Char → Option (List Char)
  | [] => some [before]
  | c :: rest =>
    if c = '0' ∨ c = '_' then afterZeros? c rest
    else if c = '.' then some (before :: c :: rest)
    else if c = '-' ∨ isDigit c then some (c :: rest)
    else none

/-- The text without the zeros that lead a number. -/
def stripZeros? : List Char → Option (List Char)
  | '0' :: rest => afterZeros? '0' rest
  | c :: rest => if c = '-' ∨ isDigit c then some (c :: rest) else none
  | [] => none

/-- The text before a point that zeros, and nothing else, follow. -/
def stripFraction (cs : List Char) : List Char :=
  match cs.dropWhile (· != '.') with
  | _ :: fraction =>
    if fraction ≠ [] ∧ fraction.all (· == '0') then cs.takeWhile (· != '.') else cs
  | [] => cs

/-- Whether two underscores stand side by side. -/
def hasUnderscorePair : List Char → Bool
  | '_' :: '_' :: _ => true
  | _ :: rest => hasUnderscorePair rest
  | [] => false

/-- The text without its underscores, if they stand alone and at neither end. -/
def stripUnderscores (cs : List Char) : List Char :=
  if cs.head? = some '_' ∨ cs.getLast? = some '_' ∨ hasUnderscorePair cs then cs
  else cs.filter (· != '_')

/-- The text of a number, cleaned of what is not read of it. -/
def cleaned? (s : String) : Option (List Char) := do
  let cs := trimWhere isSpace s.toList
  let unsigned :=
    match cs with
    | '+' :: rest => if rest.head? = some '-' then [] else rest
    | _ => cs
  match unsigned with
  | '-' :: rest => (stripZeros? rest).map fun ds => '-' :: stripUnderscores (stripFraction ds)
  | _ => (stripZeros? unsigned).map fun ds => stripUnderscores (stripFraction ds)

/-- The integer of a cleaned text: an optional minus sign, and digits of which the first is no zero
unless it is the only one. -/
def ofCleaned (cs : List Char) : Except ReadFault Int :=
  let negative := cs.head? = some '-'
  let digits := if negative then cs.tail else cs
  let run := digits.takeWhile isDigit
  let n : Int := ofDigits (run.filterMap digitValue?)
  if run = ['0'] then if digits = run then .ok 0 else .error .unreadable
  else if run = [] ∨ run.head? = some '0' then .error .unreadable
  else if digitLimit < run.length + (if negative then 1 else 0) then .error .tooLong
  else if digits ≠ run then .error .unreadable
  else .ok (if negative then -n else n)

/-- The integer that a text stands for. -/
def ofText (s : String) : Except ReadFault Int :=
  match cleaned? s with
  | some cs => ofCleaned cs
  | none => .error .unreadable

end Whole
end GrantKeeper
