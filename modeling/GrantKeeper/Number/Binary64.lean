/-
Floating-point numbers of 64 bits, in exact integer arithmetic.

A finite magnitude is given by its place in increasing order, which is also its bit pattern without
the sign. Its value is a whole number of units of 2^-1074, so every operation is exact rational
arithmetic followed by one rounding to the nearest magnitude, ties to the even place.
-/

namespace GrantKeeper

/-- A floating-point number of 64 bits; all NaNs are one. -/
inductive Binary64 where
  | nan
  | infinite (negative : Bool)
  | finite (negative : Bool) (place : Fin 0x7FF0000000000000)
  deriving DecidableEq, Inhabited

/-- The quotient of two naturals rounded to the nearest integer, a half to the even one. -/
def roundHalfEven (num den : Nat) : Nat :=
  let q := num / den
  let r := num % den
  if 2 * r < den then q
  else if den < 2 * r then q + 1
  else q + q % 2

/-- The quotient of two naturals rounded to the nearest integer, a half upwards. -/
def roundHalfUp (num den : Nat) : Nat :=
  (2 * num + den) / (2 * den)

namespace Binary64

/-- How many finite magnitudes there are. -/
def places : Nat := 0x7FF0000000000000

/-- One, counted in units of 2^-1074. -/
def one : Nat := Nat.pow 2 1074

/-- The places that share one power of two. -/
def binade : Nat := 0x10000000000000

/-- The significand of the magnitude at a place: below 2^53, and from 2^52 on unless the scale is
the least. -/
def significand (place : Nat) : Nat :=
  if place < binade then place else binade + place % binade

/-- The power of two that a place's significand is multiplied by, in units of 2^-1074. -/
def scale (place : Nat) : Nat :=
  place / binade - 1

/-- The magnitude at a place, in units of 2^-1074. -/
def unitsAt (place : Nat) : Nat :=
  significand place * Nat.pow 2 (scale place)

/-- The place nearest to `num / den` units, which may lie beyond the last finite one. -/
def nearestPlace (num den : Nat) : Nat :=
  let s := (num / den).log2 - 52
  roundHalfEven num (den * Nat.pow 2 s) + s * binade

/-- The number nearest to `num / den` units with the given sign. -/
def ofUnits (negative : Bool) (num den : Nat) : Binary64 :=
  if h : nearestPlace num den < 0x7FF0000000000000 then .finite negative ⟨nearestPlace num den, h⟩
  else .infinite negative

/-- The number nearest to a quotient of naturals with the given sign. -/
def ofRatio (negative : Bool) (num den : Nat) : Binary64 :=
  ofUnits negative (num * one) den

/-- The number nearest to a quotient of an integer by a natural. -/
def ofIntRatio (num : Int) (den : Nat) : Binary64 :=
  ofRatio (num < 0) num.natAbs den

/-- The number nearest to an integer. -/
def ofInt (n : Int) : Binary64 :=
  ofIntRatio n 1

def zero (negative : Bool) : Binary64 :=
  .finite negative ⟨0, by decide⟩

/-- The signed count of units of a finite number. -/
def units? : Binary64 → Option Int
  | .finite negative place =>
    some (if negative then -(unitsAt place.val : Int) else (unitsAt place.val : Int))
  | _ => none

/-- The number nearest to a signed count of units divided by a natural. -/
def ofSignedUnits (num : Int) (den : Nat) : Binary64 :=
  ofUnits (num < 0) num.natAbs den

def isInt (x : Binary64) (n : Int) : Bool :=
  x.units? == some (n * (one : Int))

def toInt? (x : Binary64) : Option Int :=
  x.units?.bind fun u => if u % (one : Int) = 0 then some (u / (one : Int)) else none

/-- The integer part of a finite number, towards zero. -/
def truncate? (x : Binary64) : Option Int :=
  x.units?.map fun u => u.tdiv (one : Int)

/-- The greatest integer not above a finite number. -/
def floor? (x : Binary64) : Option Int :=
  x.units?.map fun u => u.fdiv (one : Int)

/-- The sum of two numbers, rounded; NaN unless both are finite. -/
def add (x y : Binary64) : Binary64 :=
  match x.units?, y.units? with
  | some u, some v => ofSignedUnits (u + v) 1
  | _, _ => .nan

/-- The product of two numbers, rounded; NaN unless both are finite. -/
def mul (x y : Binary64) : Binary64 :=
  match x.units?, y.units? with
  | some u, some v => ofSignedUnits (u * v) one
  | _, _ => .nan

/-- Equality as numbers: the two zeros are equal and NaN is equal to nothing. -/
def same : Binary64 → Binary64 → Bool
  | .infinite a, .infinite b => a == b
  | x@(.finite ..), y@(.finite ..) => x.units? == y.units?
  | _, _ => false

/-- Whether a number is zero of either sign. -/
def isZero : Binary64 → Bool
  | .finite _ place => place.val == 0
  | _ => false

end Binary64
end GrantKeeper
