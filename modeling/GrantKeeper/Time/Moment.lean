/-
Moments: microseconds of the years 1 to 9999, counted from the start of year 1.

A moment is what a clock shows; whether it is the clock of UTC or of another zone is said where a
moment is used.
-/
import GrantKeeper.Time.Calendar

namespace GrantKeeper

def microsPerSecond : Nat := 1000000

def microsPerDay : Nat := 86400 * microsPerSecond

/-- A clock reading of the years 1 to 9999. -/
structure Moment where
  micros : Nat
  micros_lt : micros < Calendar.dayCount * microsPerDay
  deriving DecidableEq

/-- Why what stands for a time names none. -/
inductive TimeFault where
  /-- It names a time of a year 0, which the calendar does not have. -/
  | yearZero
  | unreadable
  deriving DecidableEq, Repr

namespace Moment

instance : LE Moment := ⟨fun a b => a.micros ≤ b.micros⟩

instance : LT Moment := ⟨fun a b => a.micros < b.micros⟩

instance (a b : Moment) : Decidable (a ≤ b) := inferInstanceAs (Decidable (a.micros ≤ b.micros))

instance (a b : Moment) : Decidable (a < b) := inferInstanceAs (Decidable (a.micros < b.micros))

/-- The moment a signed count of microseconds from the start of year 1, if it is in range. -/
def ofMicros? (n : Int) : Option Moment :=
  if h : 0 ≤ n ∧ n.toNat < Calendar.dayCount * microsPerDay then some ⟨n.toNat, h.2⟩ else none

/-- The microseconds from the start of year 1 to that of 1970. -/
def epochMicros : Nat := 719162 * microsPerDay

/-- The microseconds since the start of 1970. -/
def sinceEpoch (m : Moment) : Int :=
  (m.micros : Int) - (epochMicros : Int)

/-- The moment a count of microseconds from the start of 1970, if it is in range. -/
def ofEpochMicros? (n : Int) : Option Moment :=
  ofMicros? (n + (epochMicros : Int))

/-- The moment with a day and a time of that day in microseconds, if the day is in range. -/
def ofDay? (day : Int) (micros : Nat) : Option Moment :=
  ofMicros? (day * (microsPerDay : Int) + (micros : Int))

/-- The microseconds from midnight to a time of day, if there is such a time. -/
def timeOfDay? (hour minute second micro : Nat) : Option Nat :=
  if hour < 24 ∧ minute < 60 ∧ second < 60 ∧ micro < microsPerSecond then
    some (((hour * 60 + minute) * 60 + second) * microsPerSecond + micro)
  else none

def day (m : Moment) : Nat :=
  m.micros / microsPerDay

/-- The microseconds from midnight to a moment. -/
def timeOfDay (m : Moment) : Nat :=
  m.micros % microsPerDay

def year (m : Moment) : Nat :=
  (Calendar.dateOf m.day).1

def month (m : Moment) : Nat :=
  (Calendar.dateOf m.day).2.1

def dayOfMonth (m : Moment) : Nat :=
  (Calendar.dateOf m.day).2.2

def hour (m : Moment) : Nat :=
  m.timeOfDay / microsPerSecond / 3600

/-- The minute of a moment's hour. -/
def minute (m : Moment) : Nat :=
  m.timeOfDay / microsPerSecond / 60 % 60

/-- The second of a moment's minute. -/
def second (m : Moment) : Nat :=
  m.timeOfDay / microsPerSecond % 60

/-- The microsecond of a moment's second. -/
def micro (m : Moment) : Nat :=
  m.timeOfDay % microsPerSecond

end Moment
end GrantKeeper
