/-
The decision whether a token is active at a moment, and what a verdict tells of it.

The checks come in order and the first that fails makes the token inactive: it is not known, it was
invalidated, it has expired, it is not yet valid. Who asks is reported and not checked.
-/
import GrantKeeper.Client.Directory
import GrantKeeper.Grant.Authorization
import GrantKeeper.Introspection.ClaimTime
import GrantKeeper.Introspection.Verdict

namespace GrantKeeper
namespace Authorization

/-- The claims that count for a token in a slot: its own, laid over those of the id token. -/
def effectiveClaims (a : Authorization) (slot : Slot) (token : Token) : Claims :=
  let inherited : Claims :=
    if slot = .id then [] else ((a.tokens .id).bind (·.claims)).getD []
  inherited.overlay (token.claims.getD [])

/-- The client id of an authorization's client: as the directory says, or without a directory the
id of the registration. -/
def clientId (a : Authorization) (directory : Option Directory) : Except Fault String :=
  match directory with
  | none => .ok a.registeredClientId
  | some directory =>
    match directory.find? a.registeredClientId with
    | some client => .ok client.clientId
    | none => .error (.failure (.unresolvedClient a.registeredClientId))

end Authorization

/-- Why a token is not active. -/
inductive Inactivity where
  | invalidated
  | expired
  | notYetValid
  deriving DecidableEq, Repr

/-- The wording of a reason. -/
def Inactivity.text : Inactivity → String
  | .invalidated => "invalidated"
  | .expired => "expired"
  | .notYetValid => "not yet valid"

namespace Verdict

/-- What a verdict says of a token in any case: its client and its own times. -/
def basic (active : Bool) (clientId : String) (token : Token) : Verdict :=
  { unknown with
    active := active
    clientId := some clientId
    issuedAt := token.issuedAt.map .ofUtc
    expiresAt := token.expiresAt.map .ofUtc }

/-- The verdict about a token that is not active. -/
def inactive (a : Authorization) (slot : Slot) (reason : Inactivity) (clientId : String)
    (token : Token) : Traced Verdict := do
  Traced.note .debug
    s!"Introspection: {slot.name} of authorization {a.id} inactive ({reason.text})"
  pure (basic false clientId token)

/-- What a verdict says of an active token: its type and scopes if it is an access token, and its
claims. -/
def projected (clientId : String) (slot : Slot) (token : Token) (claims : Claims)
    (notBefore : Option Moment) : Except Fault Verdict := do
  let value (key : String) : Claim := (claims.get? key).getD .null
  let subject ← (value "sub").textIfAny
  let audience ← (value "aud").audience
  let issuer ← (value "iss").textIfAny
  let tokenId ← (value "jti").textIfAny
  return { basic true clientId token with
    tokenType := if slot = .access then token.tokenType else none
    scopes := if slot = .access then some token.scopes else none
    notBefore := notBefore.map .ofUtc
    subject := subject
    audience := audience
    issuer := issuer
    tokenId := tokenId }

def ofToken (a : Authorization) (slot : Slot) (token : Token) (clientId : String) (now : Moment)
    (requester : Option String) : Traced Verdict :=
  if token.invalidated then inactive a slot .invalidated clientId token
  else if token.expiresAt.any (· ≤ now) then inactive a slot .expired clientId token
  else do
    let claims := a.effectiveClaims slot token
    let notBefore ← ((claims.get? "nbf").getD .null).instant
    if notBefore.any (now < ·) then inactive a slot .notYetValid clientId token
    else do
      let verdict ← Traced.ofExcept (projected clientId slot token claims notBefore)
      let name := requester.getD "None"
      Traced.note .debug
        s!"Introspection: {slot.name} of authorization {a.id} active (requested by {name})"
      pure verdict

end Verdict

/-- The verdict about a token value and the authorization found for it, at the reading of a clock. -/
def introspect (directory : Option Directory) (clock : Timestamp) (requester : Option String)
    (value : String) : Option Authorization → Traced Verdict
  | none => do
    Traced.note .debug "Introspection: no authorization found"
    pure .unknown
  | some a =>
    match a.find? value with
    | none => do
      Traced.note .debug s!"Introspection: token not held by authorization {a.id}"
      pure .unknown
    | some (slot, token) => do
      let now ← Claim.instantOf clock
      let clientId ← Traced.ofExcept (a.clientId directory)
      Verdict.ofToken a slot token clientId now requester

end GrantKeeper
