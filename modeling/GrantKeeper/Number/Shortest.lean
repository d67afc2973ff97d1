/-
The shortest decimal that reads back as a floating-point number.

`Binary64.ofDecimal` reads a decimal to the nearest number. `Binary64.shortest` takes the first
count of digits for which one of the value's two neighbours with that many digits reads back, and
of two that do the nearer. The exact expansion always reads back, so the search cannot fail.
-/
import GrantKeeper.Number.Binary64
import GrantKeeper.Number.Decimal

namespace GrantKeeper

/-- The non-negative number `digits` times ten to the `exponent`. -/
structure Decimal where
  digits : Nat
  exponent : Int
  deriving DecidableEq, Repr

namespace Binary64

/-- The magnitude of a decimal in numerator and denominator. -/
def decimalRatio (d : Decimal) : Nat × Nat :=
  if 0 ≤ d.exponent then (d.digits * Nat.pow 10 d.exponent.toNat, 1)
  else (d.digits, Nat.pow 10 (-d.exponent).toNat)

/-- The number nearest to a decimal with the given sign. An exponent so large or so small that the
digits cannot matter is answered without computing the power. -/
def ofDecimal (negative : Bool) (d : Decimal) : Binary64 :=
  if d.digits = 0 then zero negative
  else if 400 < d.exponent then .infinite negative
  else if d.exponent + (d.digits.log2 : Int) < -400 then zero negative
  else ofRatio negative (decimalRatio d).1 (decimalRatio d).2

/-- The exponent of ten of the first digit of `units`, which are not zero. -/
def leadingExponent (units : Nat) : Int :=
  ((decimal (units * Nat.pow 10 324 / one)).length : Int) - 325

/-- Whether a decimal reads back as the magnitude at a place. -/
def readsBack (place : Nat) (d : Decimal) : Bool :=
  match ofDecimal false d with
  | .finite _ p => p.val == place
  | _ => false

/-- The neighbour with `count` digits that stands for the magnitude at a place: of the two around
it that read back, the nearer one, the even one where both are as near. -/
def neighbour? (place count : Nat) : Option Decimal :=
  let units := unitsAt place
  let exponent := leadingExponent units - (count : Int) + 1
  let num := if exponent < 0 then units * Nat.pow 10 (-exponent).toNat else units
  let den := if exponent < 0 then one else one * Nat.pow 10 exponent.toNat
  let low : Decimal := ⟨num / den, exponent⟩
  let high : Decimal := ⟨num / den + 1, exponent⟩
  if roundHalfEven num den = num / den then [low, high].find? (readsBack place)
  else [high, low].find? (readsBack place)

/-- The magnitude at a place with all its digits. -/
def exactDecimal (place : Nat) : Decimal :=
  ⟨unitsAt place * Nat.pow 5 1074, -1074⟩

/-- The fewest digits that read back as the magnitude at a place. -/
def shortest (place : Nat) : Decimal :=
  ((List.range 17).findSome? fun k => neighbour? place (k + 1)).getD (exactDecimal place)

end Binary64

/-- Without the trailing zeros of the digits, if `fuel` is more than their count. -/
def Decimal.stripZeros : Nat → Decimal → Decimal
  | 0, d => d
  | fuel + 1, d =>
    if d.digits ≠ 0 ∧ d.digits % 10 = 0 then stripZeros fuel ⟨d.digits / 10, d.exponent + 1⟩
    else d

end GrantKeeper
