/-
The authorization that a row is loaded as.

The client comes first: a row whose client is not registered is not looked at. An unreadable claim
map counts as empty, and what then breaks a rule of tokens or slots is reported as damaged data.
-/
import GrantKeeper.Claim.Stored
import GrantKeeper.Client.Directory
import GrantKeeper.Grant.Authorization
import GrantKeeper.Store.Row

namespace GrantKeeper

/-- What the metadata column of a token holds. -/
structure UnfoldedMetadata where
  metadata : Token.Metadata
  claims : Option Claims
  invalidated : Bool

namespace UnfoldedMetadata

def withoutReserved (folded : Claims) : Token.Metadata :=
  ⟨(folded.erase claimsKey).erase invalidatedKey, by
    intro key hk
    rw [Claims.has_erase, Claims.has_erase]
    simp only [reservedKeys, List.mem_cons, List.not_mem_nil, or_false] at hk
    rcases hk with rfl | rfl <;> simp⟩

/-- The claims among folded metadata. Claims that are no map are reported and left out. -/
def readClaims (field : String) (folded : Claims) : Traced (Option Claims) :=
  match folded.get? claimsKey with
  | none | some .null => pure none
  | some (.map claims) => pure (some claims)
  | some _ => do
    Traced.note .warning s!"Discarding non-map claims in {field}"
    pure none

/-- The text of a metadata column taken apart. -/
def read (field : String) (text : Option String) : Traced UnfoldedMetadata := do
  let folded ← Claims.decode text field
  let claims ← readClaims field folded
  pure ⟨withoutReserved folded, claims, (folded.get? invalidatedKey).any Claim.truthy⟩

end UnfoldedMetadata

namespace Row

/-- The attributes of a row, with the state column under its key where they say nothing of it. -/
def readAttributes (row : Row) : Traced Claims := do
  let attributes ← Claims.decode row.attributes Column.attributes.name
  match row.state with
  | some state =>
    pure (if Text.isBlankText state then attributes
      else attributes.putIfAbsent "state" (.text state))
  | none => pure attributes

def tokenType (row : Row) (slot : Slot) : Option String :=
  if slot = .access then row.accessType.map normalTokenType else none

def scopes (row : Row) (slot : Slot) : ScopeSet :=
  if slot = .access then ScopeSet.ofColumn row.accessScopes else .empty

/-- The token in a slot, yet to be found in order; none where the slot has no value. -/
def readToken (row : Row) (slot : Slot) : Traced (Option (Checked Token)) :=
  match (row.tokens slot).value with
  | none => pure none
  | some data => do
    let unfolded ← UnfoldedMetadata.read (Column.metadata slot).name (row.tokens slot).metadata
    match String.fromUTF8? data with
    | none => Traced.fault .notUtf8
    | some value =>
      pure (some ((Token.checkValue value).andThen fun value =>
        Token.ofParts value (row.tokens slot).issuedAt (row.tokens slot).expiresAt
          unfolded.metadata unfolded.claims unfolded.invalidated (row.tokenType slot)
          (row.scopes slot)))

/-- A token found in order, or the issues of one that is not. -/
def settle : Option (Checked Token) → Checked (Option Token)
  | none => .ok none
  | some token => some <$> token

def assemble (row : Row) (attributes : Claims) (tokens : Slot → Option (Checked Token)) :
    Checked Authorization :=
  (Slot.traverse fun slot => settle (tokens slot)).andThen fun tokens =>
    Authorization.ofParts row.id row.registeredClientId row.principalName row.grantType attributes
      tokens

def load (directory : Directory) (row : Row) : Traced Authorization :=
  match directory.find? row.registeredClientId with
  | none => do
    Traced.note .error
      s!"Authorization {row.id} references unknown registered client {row.registeredClientId}"
    Traced.fail (.unresolvedClient row.registeredClientId)
  | some _ => do
    let attributes ← row.readAttributes
    let tokens ← Slot.traverse row.readToken
    match row.assemble attributes tokens with
    | .ok authorization => pure authorization
    | .rejected _ => do
      Traced.note .error s!"Authorization {row.id} could not be loaded"
      Traced.fail (.integrity s!"Authorization '{row.id}' violates its invariants"
        [("id", .text row.id)])

end Row
end GrantKeeper
