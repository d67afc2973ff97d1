/-
Invalidating a token: it stays where it is, with its times and metadata, and is no longer usable.
-/
import GrantKeeper.Grant.Authorization
import GrantKeeper.Journal

namespace GrantKeeper
namespace Authorization

/-- The slot and token that invalidating a value changes: the first that holds the value, unless it
was invalidated before. -/
def toInvalidate? (a : Authorization) (value : String) : Option (Slot × Token) :=
  (a.find? value).filter fun (_, token) => !token.invalidated

/-- The authorization with the first token of a value invalidated. -/
def invalidate (a : Authorization) (value : String) : Authorization :=
  match a.toInvalidate? value with
  | some (slot, token) => a.withToken slot (some token.invalidate)
  | none => a

/-- Invalidates a token and reports it. -/
def invalidateNoted (a : Authorization) (value : String) : Traced Authorization :=
  match a.toInvalidate? value with
  | some (slot, _) => do
    Traced.note .debug s!"Invalidating {slot.name} of authorization {a.id}"
    pure (a.invalidate value)
  | none => pure (a.invalidate value)

end Authorization
end GrantKeeper
