/-
The text of a floating-point number: its shortest digits, positional from 10^-4 up to below 10^16
and with an exponent of at least two digits elsewhere, always with a mark that tells it from an
integer.
-/
import GrantKeeper.Number.Shortest

namespace GrantKeeper
namespace Binary64

open Text

/-- The least exponent of ten that is still written positionally. -/
def positionalFrom : Int := -4

/-- The least exponent of ten from there on that is not written positionally any more. -/
def positionalBelow : Int := 16

/-- An exponent with its sign and at least two digits. -/
def exponentText (e : Int) : List Char :=
  let ds := decimal e.natAbs
  (if e < 0 then '-' else '+') :: (if ds.length < 2 then '0' :: ds else ds)

/-- Digits `ds` with the first one standing for ten to the `e`, written positionally. -/
def positional (ds : List Char) (e : Int) : List Char :=
  if e < 0 then '0' :: '.' :: List.replicate (-e - 1).toNat '0' ++ ds
  else
    let whole := e.toNat + 1
    if ds.length ≤ whole then ds ++ List.replicate (whole - ds.length) '0' ++ ['.', '0']
    else ds.take whole ++ '.' :: ds.drop whole

/-- Digits `ds` with the first one standing for ten to the `e`, written with an exponent. -/
def scientific (ds : List Char) (e : Int) : List Char :=
  match ds with
  | [] => []
  | [d] => d :: 'e' :: exponentText e
  | d :: rest => d :: '.' :: rest ++ 'e' :: exponentText e

def decimalText (d : Decimal) : List Char :=
  let d := d.stripZeros (d.digits + 1)
  let ds := decimal d.digits
  let e := d.exponent + (ds.length : Int) - 1
  if positionalFrom ≤ e ∧ e < positionalBelow then positional ds e else scientific ds e

def magnitudeText (place : Nat) : List Char :=
  if place = 0 then ['0', '.', '0'] else decimalText (shortest place)

def text : Binary64 → List Char
  | .nan => "nan".toList
  | .infinite negative => if negative then "-inf".toList else "inf".toList
  | .finite negative place =>
    if negative then '-' :: magnitudeText place.val else magnitudeText place.val

end Binary64
end GrantKeeper
