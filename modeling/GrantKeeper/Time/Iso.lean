/-
Timestamps in ISO 8601 text, read leniently: calendar or week date, with or without dashes; any one
character before the time; a time with or without colons, cut after microseconds; an offset from
UTC, for which the letter Z may stand.

The reader lets through what no writer produces but readers in the field accept: a fraction after
the minutes, one stray character before the sign of an offset, a time that ends in NUL.
-/
import GrantKeeper.Time.Timestamp

namespace GrantKeeper
namespace Iso

open Text

/-- The value of the next `count` characters, if they are all ASCII digits, and the rest. -/
def digits? : Nat → List Char → Option (Nat × List Char)
  | count, cs =>
    let ds := (cs.take count).filterMap digitValue?
    if ds.length = count then some (ofDigits ds, cs.drop count) else none

/-! ## Dates -/

/-- How many characters of a text its date takes. A week date without dashes ends with the week or
the day, whichever leaves an even number of digits; one with dashes ends with the week where digits
follow that can be an hour. -/
def dateLength (cs : List Char) : Nat :=
  if cs.length = 7 then 7
  else if cs[4]? = some '-' then
    if cs[5]? = some 'W' then
      if cs[8]? = some '-' ∧ ¬ (cs[10]?.any isDigit = true) then 10 else 8
    else 10
  else if cs[4]? = some 'W' then
    let run := ((cs.drop 7).takeWhile isDigit).length
    if run < 2 then 7 + run else if run % 2 = 0 then 8 else 7
  else 8

/-- The text after a dash, or the text itself where no dash is due. -/
def afterDash? (due : Bool) (cs : List Char) : Option (List Char) :=
  match due, cs with
  | false, cs => some cs
  | true, '-' :: rest => some rest
  | true, _ => none

/-- The day a week date names, from its week on. -/
def weekDate? (year : Nat) (dashed hasDay : Bool) (cs : List Char) : Option Int := do
  let (week, cs) ← digits? 2 cs
  if hasDay then
    let cs ← afterDash? dashed cs
    let (day, _) ← digits? 1 cs
    Calendar.dayOfWeek? year week day
  else Calendar.dayOfWeek? year week 1

/-- The day a calendar date names, from its month on. -/
def monthDate? (year : Nat) (dashed : Bool) (cs : List Char) : Option Int := do
  let (month, cs) ← digits? 2 cs
  let cs ← afterDash? dashed cs
  let (day, _) ← digits? 2 cs
  guard (Calendar.isDate year month day)
  some (Calendar.dayOf year month day : Int)

/-- The day that the first `length` characters of a text name. -/
def date? (length : Nat) (cs : List Char) : Option Int := do
  let (year, cs) ← digits? 4 cs
  let dashed := cs.head? = some '-'
  let cs := if dashed then cs.tail else cs
  if cs.head? = some 'W' then
    weekDate? year dashed (if dashed then 8 < length else 7 < length) cs.tail
  else monthDate? year dashed cs

/-! ## Times and offsets -/

/-- The numbers of a time of day, and whether they take the whole text. -/
structure Clock where
  hour : Nat
  minute : Nat
  second : Nat
  micro : Nat
  whole : Bool

/-- Whether nothing follows: the end of the text, or a NUL. -/
def isEnd : List Char → Bool
  | [] => true
  | c :: _ => c.toNat == 0

/-- A fraction of a second: up to six digits count, and further ones are passed over. -/
def fraction? (cs : List Char) : Option (Nat × Bool) := do
  let count := min 6 cs.length
  let (n, rest) ← digits? count cs
  some (n * Nat.pow 10 (6 - count), isEnd (rest.dropWhile isDigit))

/-- The numbers of a time after the first `read` ones: two digits each, with colons between them if
the first is followed by one, and a fraction after the third or behind its own mark. -/
def components? : Nat → Bool → List Nat → List Char → Option (List Nat × Nat × Bool)
  | 0, _, read, cs => (fraction? cs).map fun (micro, whole) => (read, micro, whole)
  | left + 1, colons, read, cs =>
    match digits? 2 cs with
    | none => none
    | some (n, []) => some (read ++ [n], 0, true)
    | some (n, [c]) =>
      if c.toNat < 0x80 then some (read ++ [n], 0, c.toNat == 0) else none
    | some (n, c :: rest) =>
      let colons := if read = [] then c == ':' else colons
      if colons && c == ':' then components? left colons (read ++ [n]) rest
      else if c = '.' ∨ c = ',' then
        (fraction? rest).map fun (micro, whole) => (read ++ [n], micro, whole)
      else if colons then none
      else components? left colons (read ++ [n]) (c :: rest)

def clock? (cs : List Char) : Option Clock :=
  (components? 3 true [] cs).map fun (read, micro, whole) =>
    ⟨read[0]?.getD 0, read[1]?.getD 0, read[2]?.getD 0, micro, whole⟩

/-- An offset from its sign on. One without whole seconds is that of UTC. -/
def offset? (cs : List Char) : Option Offset := do
  let clock ← clock? cs.tail
  guard clock.whole
  let seconds := clock.hour * 3600 + clock.minute * 60 + clock.second
  let micros : Int := if seconds = 0 then 0 else (seconds * microsPerSecond + clock.micro : Nat)
  Offset.ofMicros? (if cs.head? = some '-' then -micros else micros)

/-- A time of day with or without an offset. What stands between the time and the sign of an
offset does not matter. -/
def time? (cs : List Char) : Option (Nat × Option Offset) := do
  let isSign := fun c : Char => c == '+' || c == '-'
  let zone := cs.dropWhile (!isSign ·)
  let clock ← clock? (cs.takeWhile (!isSign ·))
  let time ← Moment.timeOfDay? clock.hour clock.minute clock.second clock.micro
  if zone = [] then
    guard clock.whole
    some (time, none)
  else
    let offset ← offset? zone
    some (time, some offset)

end Iso

/-- The timestamp an ISO 8601 text names, if it names one. -/
def Timestamp.ofIsoText? (s : String) : Option Timestamp := do
  let cs := s.toList.flatMap fun c => if c = 'Z' then "+00:00".toList else [c]
  let length := Iso.dateLength cs
  let day ← Iso.date? length cs
  if cs.length ≤ length then
    let wall ← Moment.ofDay? day 0
    some ⟨wall, none⟩
  else
    let (time, offset) ← Iso.time? (cs.drop (length + 1))
    let wall ← Moment.ofDay? day time
    some ⟨wall, offset⟩

end GrantKeeper
