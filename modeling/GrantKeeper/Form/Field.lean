/-
The fields of forms: readers for each kind of value, and fields that are required or have a value
of their own when left out.
-/
import GrantKeeper.Form.Checked
import GrantKeeper.Number.Reader
import GrantKeeper.Number.Whole
import GrantKeeper.Time.Rfc3339
import GrantKeeper.Time.Epoch

namespace GrantKeeper
namespace Form

/-- A reader of one kind of value. -/
abbrev Reader (α : Type) := Claim → Checked α

/-! ## Plain values -/

/-- A value that stands for a text, read as one: a text itself, or binary data in UTF-8, which has a
flaw of its own where it is none. Any other value has the flaw `other`. -/
def reading (other notUtf8 : Flaw) (read : String → Checked α) : Reader α
  | .text s => read s
  | .binary data =>
    match String.fromUTF8? data with
    | some s => read s
    | none => .flawed notUtf8
  | _ => .flawed other

def text : Reader String :=
  reading .notText .notUnicode .ok

def claimMap : Reader Claims
  | .map entries => .ok entries
  | _ => .flawed .notMap

/-- A value, or null for none. -/
def optional (reader : Reader α) : Reader (Option α)
  | .null => .ok none
  | value => some <$> reader value

/-- The spellings of true and false, in lower case. -/
def booleanTexts : List (String × Bool) := [
  ("true", true), ("t", true), ("yes", true), ("y", true), ("on", true), ("1", true),
  ("false", false), ("f", false), ("no", false), ("n", false), ("off", false), ("0", false)]

def booleanOfText (s : String) : Checked Bool :=
  match booleanTexts.lookup s.toLower with
  | some b => .ok b
  | none => .flawed .unreadableBoolean

/-- Whether an integer is one of 64 bits. -/
def isWord (n : Int) : Bool :=
  -0x8000000000000000 ≤ n && n < 0x8000000000000000

/-- Whether a whole floating-point number is taken for an integer of 64 bits. The least of these is
left out. -/
def isWholeWord (n : Int) : Bool :=
  n.natAbs < 0x8000000000000000

/-- The boolean that an integer of 64 bits stands for. -/
def booleanOfInt (n : Int) : Checked Bool :=
  if n = 1 then .ok true
  else if n = 0 then .ok false
  else .flawed (if isWord n then .unreadableBoolean else .notBoolean)

/-- A boolean, also one spelled as a number or a text. -/
def boolean : Reader Bool
  | .bool b => .ok b
  | .int n => booleanOfInt n
  | .real x =>
    match x.toInt?.filter isWholeWord with
    | some n => booleanOfInt n
    | none => .flawed .notBoolean
  | value => reading .notBoolean .unreadableBoolean booleanOfText value

def integerOfText (s : String) : Checked Int :=
  match Whole.ofText s with
  | .ok n => .ok n
  | .error .unreadable => .flawed .unreadableInteger
  | .error .tooLong => .flawed .integerTooLong

/-- An integer, also one spelled as a boolean, a whole floating-point number or a text. -/
def integer : Reader Int
  | .int n => .ok n
  | .bool b => .ok (if b then 1 else 0)
  | .real x =>
    match x.units?, x.toInt? with
    | none, _ => .flawed .notFinite
    | some _, some n => if isWholeWord n then .ok n else .flawed .integerTooLong
    | some _, none => .flawed .notWhole
  | value => reading .notInteger .unreadableInteger integerOfText value

/-! ## Collections of texts -/

/-- The texts of a list, each item under its position, counted from `position`. -/
def texts : Nat → List Claim → Checked (List String)
  | _, [] => pure []
  | position, x :: xs =>
    List.cons <$> (text x).under (.item position) <*> texts (position + 1) xs

/-- The items of a list or a set, which have to be texts. -/
def textItems (flaw : Flaw) : Reader (List String)
  | .list items | .set items => texts 0 items
  | _ => .flawed flaw

def textSet : Reader (List String) :=
  textItems .notTextSet

def textList : Reader (List String) :=
  textItems .notList

/-! ## Times -/

/-- The UTC time of a bare number. -/
def bareTime (flaw : Flaw) : Except TimeFault Moment → Checked Timestamp
  | .ok m => .ok (.ofUtc m)
  | .error .yearZero => .flawed .unreadableTime
  | .error .unreadable => .flawed flaw

/-- The time that a text stands for: a timestamp or a bare number. -/
def timeOfText (s : String) : Checked Timestamp :=
  match Rfc3339.ofText s with
  | .ok t => .ok t
  | .error .yearZero => .flawed .unreadableTime
  | .error .unreadable => bareTime .unreadableTimeText (BareTime.ofText s)

/-- A timestamp, also one in text or as a number of seconds or milliseconds. An integer beyond all
floating-point numbers is no number of either. -/
def timestamp : Reader Timestamp
  | .time t => .ok t
  | .int n =>
    match (Binary64.ofInt n).units? with
    | some _ => bareTime .unreadableTime (BareTime.ofInt n)
    | none => .flawed .notTime
  | .real x => bareTime .unreadableTime (BareTime.ofReal x)
  | value => reading .notTime .unreadableTimeText timeOfText value

/-- An instant: a timestamp moved to UTC. -/
def instant : Reader Moment := fun value =>
  (timestamp value).andThen fun t =>
    match t.toUtc? with
    | some m => .ok m
    | none => .flawed .timeOutOfRange

/-! ## Fields -/

def required (fields : Claims) (name : String) (reader : Reader α) : Checked α :=
  ((fields.get? name).elim (.flawed .missing) reader).under (.field name)

/-- A field with a value for when it is left out. -/
def field (fields : Claims) (name : String) (reader : Reader α) (otherwise : α) : Checked α :=
  ((fields.get? name).elim (.ok otherwise) reader).under (.field name)

end Form
end GrantKeeper
