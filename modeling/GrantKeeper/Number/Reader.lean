/-
Numbers written by people: white space around them, a sign, single underscores between digits, and
for floating-point numbers the digits of every script and the names of NaN and infinity.
-/
import GrantKeeper.Number.Shortest
import GrantKeeper.Text.Blank

namespace GrantKeeper

open Text

/-- The value of a run of ASCII digits. -/
def natOfDigits (cs : List Char) : Nat :=
  ofDigits (cs.filterMap digitValue?)

/-- The sign of a number's text, and the text after it. -/
def splitSign : List Char → Bool × List Char
  | '-' :: rest => (true, rest)
  | '+' :: rest => (false, rest)
  | rest => (false, rest)

/-- The text without its underscores, each of which has to stand between two ASCII digits. The
first argument is the character before. -/
def dropUnderscores? : Char → List Char → Option (List Char)
  | _, [] => some []
  | before, '_' :: c :: rest =>
    if isDigit before ∧ isDigit c then (dropUnderscores? c rest).map (c :: ·) else none
  | _, c :: rest => if c = '_' then none else (dropUnderscores? c rest).map (c :: ·)

namespace Binary64

/-- The number nearest to the digits before and after a point, times ten to the `exponent`. -/
def ofDigitRuns (negative : Bool) (whole fraction : List Char) (exponent : Int) : Binary64 :=
  ofDecimal negative ⟨natOfDigits (whole ++ fraction), exponent - (fraction.length : Int)⟩

/-- The exponent that ends a number: nothing, or `e` with a signed run of digits. -/
def exponent? : List Char → Option Int
  | [] => some 0
  | e :: rest =>
    let (negative, ds) := splitSign rest
    if (e = 'e' ∨ e = 'E') ∧ ds ≠ [] ∧ ds.all isDigit then
      some (if negative then -(natOfDigits ds : Int) else (natOfDigits ds : Int))
    else none

/-- An unsigned decimal number: digits with a point among them or at either end, and an exponent. -/
def unsigned? (negative : Bool) (cs : List Char) : Option Binary64 :=
  let whole := cs.takeWhile isDigit
  let afterWhole := cs.dropWhile isDigit
  let fraction := if afterWhole.head? = some '.' then afterWhole.tail.takeWhile isDigit else []
  let rest :=
    if afterWhole.head? = some '.' then afterWhole.tail.dropWhile isDigit else afterWhole
  if whole ++ fraction = [] then none
  else (exponent? rest).map (ofDigitRuns negative whole fraction)

/-- A number after its sign: infinity, NaN or a decimal number. -/
def afterSign? (negative : Bool) (cs : List Char) : Option Binary64 :=
  let name := String.ofList (cs.map Char.toLower)
  if name = "inf" ∨ name = "infinity" then some (.infinite negative)
  else if name = "nan" then some .nan
  else unsigned? negative cs

/-- The ASCII form of a character: digits of every script become ASCII ones. -/
def asciiDigit (c : Char) : Char :=
  match decimalValue? c with
  | some d => digit d
  | none => c

def ofText? (s : String) : Option Binary64 := do
  let cs ← dropUnderscores? ' ' ((trimWhere isSpace s.toList).map asciiDigit)
  let (negative, rest) := splitSign cs
  afterSign? negative rest

end Binary64

/-- The integer a text stands for, if it does for one: digits of any script, as many as a text may
hold. -/
def wholeOfText? (s : String) : Option Int := do
  let (negative, cs) := splitSign ((trimWhere isSpace s.toList).map Binary64.asciiDigit)
  let ds ← dropUnderscores? ' ' cs
  guard (ds ≠ [] ∧ ds.all isDigit ∧ ds.length ≤ digitLimit)
  some (if negative then -(natOfDigits ds : Int) else (natOfDigits ds : Int))

end GrantKeeper
