/-
Registered clients, as a directory knows them.
-/
import GrantKeeper.Form.Field
import GrantKeeper.Grant.ScopeSet

namespace GrantKeeper

/-- A registered client: the id of its registration, the client id it goes by, a name for people and
the scopes it may ask for. -/
structure Client where
  id : String
  clientId : String
  name : String
  scopes : ScopeSet
  deriving DecidableEq

def Client.ofForm (fields : Claims) : Checked Client :=
  Client.mk
    <$> Form.required fields "id" Form.text
    <*> Form.required fields "client_id" Form.text
    <*> Form.field fields "client_name" Form.text ""
    <*> Form.field fields "scopes" (fun c => ScopeSet.ofList <$> Form.textSet c) .empty

end GrantKeeper
