/-
Saving and removing authorizations. What a failed operation leaves is the store as it was.

`save` says what comes of saving; `saveInSession` does it, column by column in a session.
-/
import GrantKeeper.Store.Lookup
import GrantKeeper.Store.Session

namespace GrantKeeper
namespace Store

/-- An authorization that is there and has an id. -/
def requireIdentified (authorization : Option Authorization) : Traced Authorization :=
  match authorization with
  | none => Traced.fail (.precondition "authorization cannot be None")
  | some a => do
    requireText a.id "id"
    pure a

/-- What is reported before an authorization is written. -/
def savingText (s : Store) (a : Authorization) : String :=
  if (s.find? a.id).isSome then s!"Updating authorization {a.id}"
  else s!"Inserting authorization {a.id}"

/-- The store with an authorization inserted, or written over what was under its id. -/
def save (s : Store) (authorization : Option Authorization) : Traced Store := do
  let a ← requireIdentified authorization
  Traced.note .debug (s.savingText a)
  let row ← Traced.ofExcept a.toRow
  pure (s.put row)

/-- Saves an authorization in a session of its own, which starts when there is one to save. -/
def saveInSession (s : Store) (authorization : Option Authorization) : Store × Traced Unit :=
  match (requireIdentified authorization).outcome with
  | .error fault => (s, Traced.fault fault)
  | .ok a =>
    let (table, outcome) := (Session.start s a.id).assign a.assignments
    (table, do
      Traced.note .debug (s.savingText a)
      Traced.ofExcept outcome)

def remove (s : Store) (authorization : Option Authorization) : Traced Store := do
  let a ← requireIdentified authorization
  let count := String.ofList (decimal (s.count a.id))
  Traced.note .debug s!"Removed authorization {a.id} ({count} row(s))"
  pure (s.erase a.id)

/-- The store after an operation: what it made, or the store as it was where it failed. -/
def after (s : Store) (operation : Traced Store) : Store :=
  match operation.outcome with
  | .ok s' => s'
  | .error _ => s

end Store
end GrantKeeper
