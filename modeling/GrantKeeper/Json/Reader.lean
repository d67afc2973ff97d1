/-
Claims read from JSON text.

The grammar is that of RFC 8259 with NaN, Infinity and -Infinity as further numbers. A reader takes
the characters that remain and answers with a claim and what remains after it, or with the first
fault from the left. Nested values are read with fuel: a bracket takes two steps and any other
character at most one, so twice the length of the text is always enough.
-/
import GrantKeeper.Claim.Basic
import GrantKeeper.Number.Reader
import GrantKeeper.Text.Quoted

namespace GrantKeeper

open Text

/-- What can be wrong with JSON text. -/
inductive ReadFault where
  | byteOrderMark
  | noValue
  | noKey
  | noColon
  | noComma
  | unterminated
  | controlCharacter
  | badEscape
  | badUnicodeEscape
  | extraData
  | oversized
  deriving DecidableEq, Repr

def ReadFault.message : ReadFault → String
  | .byteOrderMark => "Unexpected UTF-8 BOM (decode using utf-8-sig)"
  | .noValue => "Expecting value"
  | .noKey => "Expecting property name enclosed in double quotes"
  | .noColon => "Expecting ':' delimiter"
  | .noComma => "Expecting ',' delimiter"
  | .unterminated => "Unterminated string starting at"
  | .controlCharacter => "Invalid control character at"
  | .badEscape => "Invalid \\escape"
  | .badUnicodeEscape => "Invalid \\uXXXX escape"
  | .extraData => "Extra data"
  | .oversized => "Exceeds the limit (4300 digits) for integer string conversion"

namespace Json

/-- White space between the tokens of JSON text. -/
def isGap (c : Char) : Bool :=
  c == ' ' || c == '\t' || c == '\n' || c == '\r'

/-- The text after its leading white space. -/
def skipGap (cs : List Char) : List Char :=
  cs.dropWhile isGap

/-- The text after a word, if it starts with it. -/
def after? (word : String) (cs : List Char) : Option (List Char) :=
  if word.toList.isPrefixOf cs then some (cs.drop word.length) else none

/-! ## Texts -/

/-- The character a one-letter escape stands for. -/
def escape? (c : Char) : Option Char :=
  if c = doubleQuote ∨ c = '\\' ∨ c = '/' then some c
  else if c = 'b' then some '\x08'
  else if c = 'f' then some '\x0c'
  else if c = 'n' then some '\n'
  else if c = 'r' then some '\r'
  else if c = 't' then some '\t'
  else none

/-- The number four hexadecimal digits stand for. -/
def hexNumber? (a b c d : Char) : Option Nat := do
  some (((← hexValue? a) * 16 + (← hexValue? b)) * 256 + (← hexValue? c) * 16 + (← hexValue? d))

/-- The first half of a surrogate pair. -/
def isHighSurrogate (n : Nat) : Bool := 0xD800 ≤ n && n ≤ 0xDBFF

/-- The second half of a surrogate pair. -/
def isLowSurrogate (n : Nat) : Bool := 0xDC00 ≤ n && n ≤ 0xDFFF

/-- The character of a UTF-16 unit, the replacement character for half a pair. -/
def unitChar (n : Nat) : Char :=
  if isHighSurrogate n || isLowSurrogate n then Char.ofNat 0xFFFD else Char.ofNat n

/-- The character of a surrogate pair. -/
def pairChar (high low : Nat) : Char :=
  Char.ofNat (0x10000 + (high - 0xD800) * 0x400 + (low - 0xDC00))

/-- What an escape by number stands for: one character, of which it has to be known whether the
escape after it belongs to it. -/
inductive Unit16 where
  | whole (c : Char)
  | pair (c : Char)
  | bad

/-- The character of the unit `n`, given the text after it. The text must not end there. -/
def unit16 (n : Nat) : List Char → Unit16
  | '\\' :: 'u' :: a :: b :: c :: d :: _ :: _ =>
    if isHighSurrogate n then
      match hexNumber? a b c d with
      | none => .bad
      | some low => if isLowSurrogate low then .pair (pairChar n low) else .whole (unitChar n)
    else .whole (unitChar n)
  | [] => .bad
  | _ => .whole (unitChar n)

/-- Puts a character in front of a text that was read. -/
def consText (c : Char) : Except ReadFault (List Char × List Char) →
    Except ReadFault (List Char × List Char) :=
  Except.map fun (s, rest) => (c :: s, rest)

/-- The rest of a text after its opening quote, and what follows its closing one. -/
def textBody : List Char → Except ReadFault (List Char × List Char)
  | [] => .error .unterminated
  | '\\' :: 'u' :: a :: b :: c :: d :: rest =>
    match hexNumber? a b c d with
    | none => .error .badUnicodeEscape
    | some n =>
      match unit16 n rest with
      | .bad => .error .badUnicodeEscape
      | .whole ch => consText ch (textBody rest)
      | .pair ch => consText ch (textBody (rest.drop 6))
  | '\\' :: rest =>
    match rest with
    | [] => .error .unterminated
    | c :: rest =>
      if c = 'u' then .error .badUnicodeEscape
      else
        match escape? c with
        | none => .error .badEscape
        | some ch => consText ch (textBody rest)
  | c :: rest =>
    if c = doubleQuote then .ok ([], rest)
    else if c.toNat < 0x20 then .error .controlCharacter
    else consText c (textBody rest)
termination_by cs => cs.length
decreasing_by all_goals simp_all; try omega

/-! ## Numbers -/

/-- The digits before the point: a zero alone, or a run that does not start with one. -/
def wholeDigits : List Char → List Char
  | '0' :: _ => ['0']
  | cs => cs.takeWhile isDigit

/-- The digits behind a point, if at least one follows it, and the rest. -/
def fractionDigits : List Char → List Char × List Char
  | '.' :: c :: rest =>
    if isDigit c then (c :: rest.takeWhile isDigit, rest.dropWhile isDigit)
    else ([], '.' :: c :: rest)
  | cs => ([], cs)

/-- The exponent, if at least one digit follows its mark and sign, and the rest. -/
def exponentPart (cs : List Char) : Option Int × List Char :=
  match cs with
  | [] => (none, [])
  | e :: afterMark =>
    let (negative, digits) := splitSign afterMark
    let ds := digits.takeWhile isDigit
    if (e = 'e' ∨ e = 'E') ∧ ds ≠ [] then
      (some (if negative then -(natOfDigits ds : Int) else (natOfDigits ds : Int)),
        digits.dropWhile isDigit)
    else (none, cs)

/-- A number: an integer unless it has a fraction or an exponent. -/
def number (cs : List Char) : Except ReadFault (Claim × List Char) :=
  let negative := cs.head? == some '-'
  let body := if negative then cs.tail else cs
  let whole := wholeDigits body
  if whole = [] then .error .noValue
  else
    let (fraction, rest) := fractionDigits (body.drop whole.length)
    let (exponent, rest) := exponentPart rest
    if fraction = [] ∧ exponent = none then
      let n : Int := natOfDigits whole
      if oversized n then .error .oversized
      else .ok (.int (if negative then -n else n), rest)
    else .ok (.real (Binary64.ofDigitRuns negative whole fraction (exponent.getD 0)), rest)

/-! ## Values -/

/-- The words that stand for values. -/
def words : List (String × Claim) := [
  ("null", .null), ("true", .bool true), ("false", .bool false), ("NaN", .real .nan),
  ("Infinity", .real (.infinite false)), ("-Infinity", .real (.infinite true))]

/-- A value that is not a text, a list or a map. -/
def scalar (cs : List Char) : Except ReadFault (Claim × List Char) :=
  match words.findSome? fun (word, claim) => (after? word cs).map (claim, ·) with
  | some found => .ok found
  | none => number cs

/-- A key with its colon and the white space around that. -/
def key (cs : List Char) : Except ReadFault (String × List Char) :=
  match cs with
  | '\x22' :: rest => do
    let (s, rest) ← textBody rest
    match skipGap rest with
    | ':' :: rest => .ok (String.ofList s, skipGap rest)
    | _ => .error .noColon
  | _ => .error .noKey

mutual

def value : Nat → List Char → Except ReadFault (Claim × List Char)
  | 0, _ => .error .noValue
  | _, [] => .error .noValue
  | fuel + 1, c :: rest =>
    if c = doubleQuote then
      (textBody rest).map fun (s, rest) => (.text (String.ofList s), rest)
    else if c = '[' then
      let rest := skipGap rest
      if rest.head? = some ']' then .ok (.list [], rest.tail)
      else (items fuel rest).map fun (xs, rest) => (.list xs, rest)
    else if c = '\x7b' then
      let rest := skipGap rest
      if rest.head? = some '\x7d' then .ok (.map [], rest.tail)
      else (entries fuel rest).map fun (xs, rest) => (.map (Claims.ofEntries xs), rest)
    else scalar (c :: rest)

/-- The items of a list from one of them on, to its end. -/
def items : Nat → List Char → Except ReadFault (List Claim × List Char)
  | 0, _ => .error .noValue
  | fuel + 1, cs => do
    let (x, rest) ← value fuel cs
    match skipGap rest with
    | ']' :: rest => .ok ([x], rest)
    | ',' :: rest => do
      let (xs, rest) ← items fuel (skipGap rest)
      .ok (x :: xs, rest)
    | _ => .error .noComma

/-- The entries of a map from one of them on, to its end. -/
def entries : Nat → List Char → Except ReadFault (List (String × Claim) × List Char)
  | 0, _ => .error .noKey
  | fuel + 1, cs => do
    let (key, rest) ← key cs
    let (x, rest) ← value fuel rest
    match skipGap rest with
    | '\x7d' :: rest => .ok ([(key, x)], rest)
    | ',' :: rest => do
      let (xs, rest) ← entries fuel (skipGap rest)
      .ok ((key, x) :: xs, rest)
    | _ => .error .noComma

end

/-- The value that a whole text holds. -/
def parse (s : String) : Except ReadFault Claim :=
  if s.toList.head? = some '\ufeff' then .error .byteOrderMark
  else do
    let cs := skipGap s.toList
    let (x, rest) ← value (2 * cs.length + 1) cs
    if skipGap rest = [] then .ok x else .error .extraData

end Json
end GrantKeeper
