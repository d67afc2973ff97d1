/-
The proleptic Gregorian calendar of the years 1 to 9999, with days counted from 1 January of
year 1, which is day 0.
-/

namespace GrantKeeper
namespace Calendar

/-- Every fourth year is a leap year, every hundredth is not, every four-hundredth is. -/
def isLeap (year : Nat) : Bool :=
  year % 4 == 0 && (year % 100 != 0 || year % 400 == 0)

def daysInMonth (year : Nat) : Nat → Nat
  | 2 => if isLeap year then 29 else 28
  | 4 | 6 | 9 | 11 => 30
  | _ => 31

/-- The number of days before 1 January of a year. -/
def daysBeforeYear (year : Nat) : Nat :=
  let y := year - 1
  y * 365 + y / 4 - y / 100 + y / 400

/-- The number of days of a year before the first of a month. -/
def daysBeforeMonth (year : Nat) : Nat → Nat
  | 0 | 1 => 0
  | month + 2 => daysBeforeMonth year (month + 1) + daysInMonth year (month + 1)

/-- The number of days in the years 1 to 9999. -/
def dayCount : Nat := 3652059

def isDate (year month day : Nat) : Bool :=
  1 ≤ year && year ≤ 9999 && 1 ≤ month && month ≤ 12 && 1 ≤ day && day ≤ daysInMonth year month

def dayOf (year month day : Nat) : Nat :=
  daysBeforeYear year + daysBeforeMonth year month + (day - 1)

/-- The year of a day: four-hundreds, hundreds, fours and single years in turn, the last hundred
and the last year of a longer period being one day longer. -/
def yearOf (day : Nat) : Nat :=
  let inFourHundred := day % 146097
  let hundreds := min (inFourHundred / 36524) 3
  let inHundred := inFourHundred - hundreds * 36524
  let inFour := inHundred % 1461
  day / 146097 * 400 + hundreds * 100 + inHundred / 1461 * 4 + min (inFour / 365) 3 + 1

/-- The last month from `month` downwards that starts on or before the given day of the year. -/
def monthFrom (year dayOfYear : Nat) : Nat → Nat
  | 0 | 1 => 1
  | month + 2 =>
    if daysBeforeMonth year (month + 2) ≤ dayOfYear then month + 2
    else monthFrom year dayOfYear (month + 1)

/-- The year, month and day of a day. -/
def dateOf (day : Nat) : Nat × Nat × Nat :=
  let year := yearOf day
  let dayOfYear := day - daysBeforeYear year
  let month := monthFrom year dayOfYear 12
  (year, month, dayOfYear - daysBeforeMonth year month + 1)

/-- The weekday of a day, Monday being 0. -/
def weekday (day : Nat) : Nat :=
  day % 7

/-! ## Weeks -/

/-- The Monday of a year's first week, the one that holds 4 January. It may lie before day 0. -/
def firstMonday (year : Nat) : Int :=
  let start := dayOf year 1 1
  let monday : Int := (start : Int) - (weekday start : Int)
  if 3 < weekday start then monday + 7 else monday

/-- Whether a year has a 53rd week. -/
def hasLongYear (year : Nat) : Bool :=
  let start := weekday (dayOf year 1 1)
  start == 3 || (start == 2 && isLeap year)

def dayOfWeek? (year week day : Nat) : Option Int :=
  if 1 ≤ year ∧ (1 ≤ week ∧ week ≤ 52 ∨ week = 53 ∧ hasLongYear year) ∧ 1 ≤ day ∧ day ≤ 7 then
    some (firstMonday year + ((week - 1) * 7 + (day - 1) : Nat))
  else none

end Calendar
end GrantKeeper
