/-
Decimal text of natural numbers and integers.
-/
import GrantKeeper.Text.Digit

namespace GrantKeeper

open Text

/-- The decimal digits of `n`, if `fuel` is more than their count. -/
def decimalWithin : Nat → Nat → List Char
  | 0, _ => []
  | fuel + 1, n =>
    if n < 10 then [digit n] else decimalWithin fuel (n / 10) ++ [digit (n % 10)]

/-- The decimal digits of a natural number, without leading zeros. -/
def decimal (n : Nat) : List Char :=
  decimalWithin (n + 1) n

/-- The decimal text of an integer. -/
def decimalInt (n : Int) : List Char :=
  if n < 0 then '-' :: decimal n.natAbs else decimal n.natAbs

/-- The most digits an integer may have to be read or written as text. -/
def digitLimit : Nat := 4300

/-- Whether an integer has more digits than text may hold. -/
def oversized (n : Int) : Bool :=
  Nat.pow 10 digitLimit ≤ n.natAbs

end GrantKeeper
