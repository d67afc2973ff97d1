/-
The rules that tokens and authorizations have to keep, and their wording.
-/
import GrantKeeper.Claim.Text
import GrantKeeper.Grant.Slot

namespace GrantKeeper

/-- A list of texts, each in quotes. -/
def quotedList (items : List String) : String :=
  String.ofList (Claim.quoted (.list (items.map .text)))

/-- A rule that a value of the right shape can break. -/
inductive Rule where
  /-- A token has a value. -/
  | valueGiven
  /-- Some keys of token metadata are kept for the store. -/
  | keysReserved (keys : List String)
  /-- A token does not expire before it is issued. -/
  | expiryAfterIssue
  /-- Codes and access tokens say when they were issued and when they expire. -/
  | expiryGiven (slot : Slot)
  /-- Only access tokens have a type and scopes. -/
  | accessFieldsOnly (slot : Slot)
  deriving DecidableEq, Repr

def Rule.text : Rule → String
  | .valueGiven => "token value cannot be empty"
  | .keysReserved keys => s!"metadata keys {quotedList keys} are reserved"
  | .expiryAfterIssue => "expires_at must not be before issued_at"
  | .expiryGiven slot => s!"{slot.name} requires issued_at and expires_at"
  | .accessFieldsOnly slot => s!"{slot.name} cannot carry token_type or scopes"

end GrantKeeper
