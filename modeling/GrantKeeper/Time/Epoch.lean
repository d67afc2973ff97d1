/-
Instants as seconds since the start of 1970: from numbers, to numbers, and from bare numbers of
which only the size tells whether they count seconds or milliseconds.
-/
import GrantKeeper.Number.Reader
import GrantKeeper.Time.Timestamp

namespace GrantKeeper

/-! ## From seconds -/

namespace Moment

/-- The instant a whole number of seconds after the start of 1970. -/
def ofWholeSeconds? (n : Int) : Option Moment :=
  ofEpochMicros? (n * (microsPerSecond : Int))

/-- The microseconds in a number of seconds. The part behind the point is multiplied on its own,
with one rounding to a floating-point number and one to an integer, a half to the even one. -/
def microsOf? (seconds : Binary64) : Option Int := do
  let units ← seconds.units?
  let whole := units.tdiv (Binary64.one : Int)
  let part := units - whole * (Binary64.one : Int)
  let product ← (Binary64.ofSignedUnits (part * (microsPerSecond : Int)) 1).units?
  let micros := roundHalfEven product.natAbs Binary64.one
  some (whole * (microsPerSecond : Int) + product.sign * (micros : Int))

/-- The instant a number of seconds after the start of 1970. -/
def ofSeconds? (seconds : Binary64) : Option Moment :=
  (microsOf? seconds).bind ofEpochMicros?

end Moment

/-! ## To seconds -/

namespace Timestamp

/-- The seconds from the start of 1970 to a timestamp, as a floating-point number cut to an integer.
With a known offset the microseconds are divided once; without one the fraction is added to the
whole seconds. A reading of unknown offset within the first day of year 1 has no answer: an earlier
day is looked at for a change of the clock, and there is none. -/
def epochSeconds? (t : Timestamp) : Option Int :=
  match t.offset with
  | some _ =>
    (Binary64.ofIntRatio (t.utcMicros - (Moment.epochMicros : Int)) microsPerSecond).truncate?
  | none =>
    if t.wall.micros < microsPerDay then none
    else
      let whole := t.wall.sinceEpoch.fdiv (microsPerSecond : Int)
      ((Binary64.ofInt whole).add (Binary64.ofRatio false t.wall.micro microsPerSecond)).truncate?

end Timestamp

/-! ## Bare numbers -/

namespace BareTime

/-- A bare number up to this size counts seconds and a larger one milliseconds. -/
def largestSeconds : Nat := 20000000000

/-- The seconds from 1970 back to the start of a year 0. -/
def yearZeroStart : Int := -62167219200

/-- The microseconds in the unit that a number counts. -/
def unitOf (inSeconds : Bool) : Nat :=
  if inSeconds then microsPerSecond else 1000

/-- The instant a number of microseconds after the start of 1970. -/
def ofMicros (n : Int) : Except TimeFault Moment :=
  match Moment.ofEpochMicros? n with
  | some m => .ok m
  | none =>
    if yearZeroStart * (microsPerSecond : Int) ≤ n ∧ n < 0 then .error .yearZero
    else .error .unreadable

/-- The instant of a bare integer. -/
def ofInt (n : Int) : Except TimeFault Moment :=
  ofMicros (n * (unitOf (n.natAbs ≤ largestSeconds) : Int))

/-- The whole microseconds in a fraction of a unit, a half rounded up. -/
def roundedMicros (unit : Nat) (fraction : Binary64) : Nat :=
  match (fraction.mul (Binary64.ofInt unit)).units? with
  | some u => roundHalfUp u.natAbs Binary64.one
  | none => 0

/-- The instant of a bare floating-point number. What the number is above the integer below it is
rounded to microseconds on its own. -/
def ofReal (x : Binary64) : Except TimeFault Moment :=
  match x.units?, x.floor? with
  | some units, some floor =>
    let unit := unitOf (units.natAbs ≤ largestSeconds * Binary64.one)
    ofMicros (floor * (unit : Int) + (roundedMicros unit (x.add (Binary64.ofInt (-floor))) : Int))
  | _, _ => .error .unreadable

/-- The instant of a bare number in text: an integer, or a decimal number with a point, in which an
exponent is read too. The digits that begin either have to be those of an integer of 64 bits. -/
def ofText (s : String) : Except TimeFault Moment :=
  let (negative, cs) := splitSign s.toList
  let whole := cs.takeWhile Text.isDigit
  let n : Int := natOfDigits whole
  if 0x8000000000000000 ≤ n then .error .unreadable
  else
    match cs.dropWhile Text.isDigit with
    | [] => if whole = [] then .error .unreadable else ofInt (if negative then -n else n)
    | '.' :: _ =>
      match Binary64.unsigned? negative cs with
      | some x => ofReal x
      | none => .error .unreadable
    | _ => .error .unreadable

end BareTime
end GrantKeeper
