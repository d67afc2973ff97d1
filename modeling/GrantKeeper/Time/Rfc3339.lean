/-
Timestamps in the text of RFC 3339, read strictly: a date, a separator, a time of at least hours
and minutes, and at most an offset. The date alone stands for its midnight.
-/
import GrantKeeper.Time.Iso

namespace GrantKeeper
namespace Rfc3339

open Text Iso

/-- The text after one of the given characters. -/
def after? (allowed : List Char) : List Char → Option (List Char)
  | [] => none
  | c :: rest => if allowed.contains c then some rest else none

/-- A date, and the text after it. Dates of a year 0 are read like those of the leap year 400, but
no day of the calendar is theirs. -/
def date? (cs : List Char) : Option (Option Nat × List Char) := do
  let (year, cs) ← digits? 4 cs
  let cs ← after? ['-'] cs
  let (month, cs) ← digits? 2 cs
  let cs ← after? ['-'] cs
  let (day, cs) ← digits? 2 cs
  guard (Calendar.isDate (if year = 0 then 400 else year) month day)
  some (if year = 0 then none else some (Calendar.dayOf year month day), cs)

/-- A fraction of a second behind its mark, in microseconds, and the text after it. Digits beyond
the sixth are passed over. -/
def fraction? (cs : List Char) : Option (Nat × List Char) :=
  let ds := cs.takeWhile isDigit
  let kept := (ds.take 6).filterMap digitValue?
  if ds = [] then none else some (ofDigits kept * Nat.pow 10 (6 - kept.length), cs.dropWhile isDigit)

/-- Seconds with their fraction in microseconds, where a colon introduces them. -/
def seconds? (cs : List Char) : Option (Nat × Nat × List Char) :=
  match after? [':'] cs with
  | none => some (0, 0, cs)
  | some rest => do
    let (second, rest) ← digits? 2 rest
    match after? ['.', ','] rest with
    | none => some (second, 0, rest)
    | some rest => do
      let (micro, rest) ← fraction? rest
      some (second, micro, rest)

/-- A time of day in microseconds, and the text after it. -/
def time? (cs : List Char) : Option (Nat × List Char) := do
  let (hour, cs) ← digits? 2 cs
  let cs ← after? [':'] cs
  let (minute, cs) ← digits? 2 cs
  let (second, micro, cs) ← seconds? cs
  let time ← Moment.timeOfDay? hour minute second micro
  some (time, cs)

/-- The offset that ends a text, if there is one. -/
def offset? (cs : List Char) : Option (Option Offset) :=
  match cs with
  | [] => some none
  | ['Z'] | ['z'] => some (some Offset.utc)
  | sign :: rest => do
    guard (sign = '+' ∨ sign = '-' ∨ sign = '\u2212')
    let (hour, rest) ← digits? 2 rest
    let (minute, rest) ← digits? 2 ((after? [':'] rest).getD rest)
    guard (minute < 60 ∧ rest = [])
    let micros : Int := ((hour * 60 + minute) * 60 * microsPerSecond : Nat)
    let offset ← Offset.ofMicros? (if sign = '+' then micros else -micros)
    some (some offset)

/-- The day, the time of day and the offset that a text names. -/
def parts? (cs : List Char) : Option (Option Nat × Nat × Option Offset) := do
  let (day, rest) ← date? cs
  if rest = [] then some (day, 0, none)
  else
    let rest ← after? ['T', 't', ' ', '_'] rest
    let (time, rest) ← time? rest
    let offset ← offset? rest
    some (day, time, offset)

def ofText (s : String) : Except TimeFault Timestamp :=
  match parts? s.toList with
  | none => .error .unreadable
  | some (none, _) => .error .yearZero
  | some (some day, time, offset) =>
    match Moment.ofDay? day time with
    | some wall => .ok ⟨wall, offset⟩
    | none => .error .unreadable

end Rfc3339
end GrantKeeper
