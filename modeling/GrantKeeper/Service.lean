/-
The service: a store and a directory of clients, and the requests that they answer together.

Every request is answered by a value of `perform`, which also says what the service is afterwards;
a request that fails leaves it as it was.
-/
import GrantKeeper.Introspection.Decision
import GrantKeeper.Store.Saving

namespace GrantKeeper

/-- The verdict about a token value, found through the store. A hint that leads nowhere does not
hide the token: the value is looked for once more without it. -/
def Store.introspect (s : Store) (directory : Directory) (clock : Timestamp) (value : String)
    (requester : Option String) (hint : Option String) : Traced Verdict := do
  let found ← s.findByToken directory value hint
  let found ← if found.isNone && hint.isSome then s.findByToken directory value none else pure found
  GrantKeeper.introspect (some directory) clock requester value found

/-- A store and the clients that its authorizations are checked against. -/
structure Service where
  store : Store
  directory : Directory

/-- What can be asked of the service. -/
inductive Request where
  | register (client : Client)
  | unregister (id : String)
  | save (authorization : Option Authorization)
  | remove (authorization : Option Authorization)
  | findById (id : String)
  | findByToken (text : String) (hint : Option String)
  | introspect (clock : Timestamp) (value : String) (requester hint : Option String)

/-- What the service answers. -/
inductive Reply where
  | done
  | authorization (found : Option Authorization)
  | verdict (verdict : Verdict)

namespace Service

/-- The service with nothing stored and no client registered. -/
def empty : Service := ⟨.empty, .empty⟩

def withStore (s : Service) (operation : Traced Store) : Service :=
  { s with store := s.store.after operation }

/-- The answer to a request, and the service after it. -/
def perform (s : Service) : Request → Service × Traced Reply
  | .register client => ({ s with directory := s.directory.register client }, pure .done)
  | .unregister id => ({ s with directory := s.directory.unregister id }, pure .done)
  | .save a =>
    let (store, outcome) := s.store.saveInSession a
    ({ s with store := store }, (fun _ => .done) <$> outcome)
  | .remove a =>
    let operation := s.store.remove a
    (s.withStore operation, (fun _ => .done) <$> operation)
  | .findById id => (s, .authorization <$> s.store.findById s.directory id)
  | .findByToken text hint => (s, .authorization <$> s.store.findByToken s.directory text hint)
  | .introspect clock value requester hint =>
    (s, .verdict <$> s.store.introspect s.directory clock value requester hint)

/-- The service after requests one after another. -/
def run (s : Service) (requests : List Request) : Service :=
  requests.foldl (fun s request => (s.perform request).1) s

end Service
end GrantKeeper
