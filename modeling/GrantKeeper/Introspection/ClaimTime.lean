/-
Reading claims whose form is up to whoever wrote them: times as numbers, texts or timestamps, and
audiences as one text or several.

A time claim that names no instant of the years 1 to 9999 is ignored, with a warning where it looks
like a time at all.
-/
import GrantKeeper.Claim.Text
import GrantKeeper.Journal
import GrantKeeper.Number.Reader
import GrantKeeper.Time.Epoch
import GrantKeeper.Time.Iso

namespace GrantKeeper
namespace Claim

/-- The text of a claim, where an integer that is too long has none. -/
def shown (c : Claim) : Except Fault String :=
  if c.hasOversized then .error .oversizedInteger else .ok c.toText

/-- A claim as it is shown inside a list. -/
def shownQuoted (c : Claim) : Except Fault String :=
  if c.hasOversized then .error .oversizedInteger else .ok (String.ofList c.quoted)

/-- An instant, or a warning about the number that names none. -/
def instantOrWarning (number : Claim) (instant : Option Moment) : Traced (Option Moment) :=
  match instant with
  | some m => pure (some m)
  | none => do
    let shown ← Traced.ofExcept number.shownQuoted
    Traced.note .warning s!"Ignoring out-of-range time claim: {shown}"
    pure none

/-- The instant a timestamp is. One that leaves the years 1 to 9999 on the way to UTC ends the
reading. -/
def instantOf (t : Timestamp) : Traced Moment :=
  match t.toUtc? with
  | some m => pure m
  | none => Traced.fault .timeOutOfRange

/-- The instant a text names: a number of seconds if it is one, else an ISO 8601 timestamp. -/
def instantOfText (s : String) : Traced (Option Moment) :=
  match Binary64.ofText? s with
  | some seconds => instantOrWarning (.real seconds) (Moment.ofSeconds? seconds)
  | none =>
    match (Timestamp.ofIsoText? s).bind (·.toUtc?) with
    | some m => pure (some m)
    | none => do
      let shown := Text.quoted s
      Traced.note .warning s!"Ignoring unreadable time claim: {shown}"
      pure none

def instant : Claim → Traced (Option Moment)
  | .time t => some <$> instantOf t
  | .int n => instantOrWarning (.int n) (Moment.ofWholeSeconds? n)
  | .real x => instantOrWarning (.real x) (Moment.ofSeconds? x)
  | .text s => instantOfText s
  | _ => pure none

def shownAll : List Claim → Except Fault (List String)
  | [] => .ok []
  | c :: cs => do
    let s ← c.shown
    let rest ← shownAll cs
    return s :: rest

/-- The audience that a claim names: one text or several values. -/
def audience : Claim → Except Fault (Option (List String))
  | .text s => .ok (some [s])
  | .list items | .set items => some <$> shownAll items
  | _ => .ok none

/-- The text of a claim, none of null. -/
def textIfAny : Claim → Except Fault (Option String)
  | .null => .ok none
  | c => some <$> c.shown

end Claim
end GrantKeeper
