/-
The normal form of authorizations: what is left of one once it has been stored and loaded again.

Claims come back in their normal form, a bearer token's type in its one spelling, and the scopes as
the column of scopes tells them apart; only access tokens keep a type and scopes.
-/
import GrantKeeper.Claim.Normal
import GrantKeeper.Grant.Authorization

namespace GrantKeeper

theorem Claims.has_normal (claims : Claims) (key : String) :
    claims.normal.has key = claims.has key := by
  simp [has, normal, Claim.normalEntries_eq_map, List.any_map, Function.comp_def]

namespace ScopeSet

/-- The set that is read from the column of a set. -/
def normal (set : ScopeSet) : ScopeSet :=
  ofColumn (some set.toColumn)

end ScopeSet

namespace Token

/-- The token that is left of one in a slot. -/
def normalIn (slot : Slot) (t : Token) : Token where
  value := t.value
  issuedAt := t.issuedAt
  expiresAt := t.expiresAt
  metadata := t.metadata.normal
  claims := t.claims.map Claims.normal
  invalidated := t.invalidated
  tokenType := if slot = .access then t.tokenType.map normalTokenType else none
  scopes := if slot = .access then t.scopes.normal else .empty
  value_ne := t.value_ne
  leavesReserved := fun key hk => (Claims.has_normal _ _).trans (t.leavesReserved key hk)
  timesOrdered := t.timesOrdered

end Token

namespace Authorization

/-- The authorization that is left of one. -/
def normal (a : Authorization) : Authorization :=
  { a with
    attributes := a.attributes.normal
    tokens := fun slot => (a.tokens slot).map (·.normalIn slot) }

theorem tokens_normal (a : Authorization) (slot : Slot) :
    a.normal.tokens slot = (a.tokens slot).map (·.normalIn slot) := rfl

end Authorization
end GrantKeeper
