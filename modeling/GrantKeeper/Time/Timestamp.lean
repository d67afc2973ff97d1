/-
Timestamps: clock readings that may say how far their clock is from UTC, their text, and the move
to UTC.
-/
import GrantKeeper.Text.Digit
import GrantKeeper.Time.Moment

namespace GrantKeeper

open Text

/-- How far a clock is ahead of UTC, in microseconds: less than a day either way. -/
structure Offset where
  micros : Int
  lower : -(microsPerDay : Int) < micros
  upper : micros < (microsPerDay : Int)
  deriving DecidableEq

namespace Offset

def utc : Offset := ⟨0, by decide, by decide⟩

/-- The offset of so many microseconds, if that is less than a day. -/
def ofMicros? (n : Int) : Option Offset :=
  if h : -(microsPerDay : Int) < n ∧ n < (microsPerDay : Int) then some ⟨n, h.1, h.2⟩ else none

end Offset

/-- A clock reading, with its clock's offset where that is known. -/
structure Timestamp where
  wall : Moment
  offset : Option Offset
  deriving DecidableEq

namespace Timestamp

/-- A reading of the clock of UTC. -/
def ofUtc (m : Moment) : Timestamp :=
  ⟨m, some Offset.utc⟩

/-- A reading of a clock of unknown offset. -/
def naive (m : Moment) : Timestamp :=
  ⟨m, none⟩

/-- The microseconds from the start of year 1 on the clock of UTC, an unknown offset counting as
none. -/
def utcMicros (t : Timestamp) : Int :=
  match t.offset with
  | none => t.wall.micros
  | some offset => t.wall.micros - offset.micros

/-- The same instant on the clock of UTC, a clock of unknown offset counting as that of UTC. There
is none where it falls outside the years 1 to 9999. -/
def toUtc? (t : Timestamp) : Option Moment :=
  match t.offset with
  | none => some t.wall
  | some _ => Moment.ofMicros? t.utcMicros

/-- Whether two timestamps are the same: the same reading of clocks of unknown offset, or the same
instant where both offsets are known. -/
def same (a b : Timestamp) : Bool :=
  a.offset.isSome == b.offset.isSome && a.utcMicros == b.utcMicros

/-! ## Text -/

/-- A fraction of a second: six digits after a point, nothing at all for none. -/
def fractionText (micros : Nat) : List Char :=
  if micros = 0 then [] else '.' :: padded 6 micros

/-- Date and time of day with a character between them. -/
def wallText (separator : Char) (m : Moment) : List Char :=
  padded 4 m.year ++ '-' :: padded 2 m.month ++ '-' :: padded 2 m.dayOfMonth ++
    separator :: padded 2 m.hour ++ ':' :: padded 2 m.minute ++ ':' :: padded 2 m.second ++
    fractionText m.micro

/-- An offset as hours and minutes, with seconds and their fraction only where there are any. -/
def offsetText (offset : Offset) : List Char :=
  let n := offset.micros.natAbs
  let seconds := n / microsPerSecond
  let micros := n % microsPerSecond
  (if offset.micros < 0 then '-' else '+') :: padded 2 (seconds / 3600) ++
    ':' :: padded 2 (seconds / 60 % 60) ++
    (if seconds % 60 = 0 ∧ micros = 0 then [] else ':' :: padded 2 (seconds % 60)) ++
    fractionText micros

/-- The text of a timestamp with a character between date and time. -/
def textWith (separator : Char) (t : Timestamp) : List Char :=
  wallText separator t.wall ++
    match t.offset with
    | none => []
    | some offset => offsetText offset

def isoText (t : Timestamp) : String :=
  String.ofList (t.textWith 'T')

end Timestamp

/-- The ISO 8601 text of an instant of UTC. -/
def Moment.utcText (m : Moment) : String :=
  (Timestamp.ofUtc m).isoText

end GrantKeeper
