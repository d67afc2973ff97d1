/-
The row that an authorization is written as.

The columns are made in their order and the first that has no text ends the writing, so nothing of
such an authorization reaches the table.
-/
import GrantKeeper.Claim.Stored
import GrantKeeper.Grant.Authorization
import GrantKeeper.Store.Row

namespace GrantKeeper

namespace Token

/-- The metadata of a token with what the store keeps beside it: the claims, if there are any, and
that the token was invalidated. -/
def foldedMetadata (t : Token) : Claims :=
  let withClaims :=
    match t.claims with
    | some claims => t.metadata.put claimsKey (.map claims)
    | none => t.metadata
  if t.invalidated then withClaims.put invalidatedKey (.bool true) else withClaims

def columns (slot : Slot) (t : Token) : Except Fault TokenColumns := do
  let metadata ← t.foldedMetadata.encode (Column.metadata slot).name
  return ⟨some t.value.toUTF8, t.issuedAt, t.expiresAt, some metadata⟩

end Token

namespace Authorization

/-- The state column: the state, unless it is blank. -/
def stateColumn (a : Authorization) : Option String :=
  a.stateText.filter fun s => !Text.isBlankText s

def slotColumns (a : Authorization) (slot : Slot) : Except Fault TokenColumns :=
  match a.tokens slot with
  | some token => token.columns slot
  | none => .ok .empty

def toRow (a : Authorization) : Except Fault Row := do
  let attributes ← a.attributes.encode Column.attributes.name
  let tokens ← Slot.traverse a.slotColumns
  return {
    id := a.id
    registeredClientId := a.registeredClientId
    principalName := a.principalName
    grantType := a.grantType
    attributes := some attributes
    state := a.stateColumn
    tokens := tokens
    accessType := (a.tokens .access).bind (·.tokenType)
    accessScopes := (a.tokens .access).map (·.scopes.toColumn) }

end Authorization
end GrantKeeper
