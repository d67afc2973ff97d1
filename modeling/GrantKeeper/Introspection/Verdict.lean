/-
Verdicts: whether a token is active, what is known about it, and the members of the response that
tell a client so.
-/
import GrantKeeper.Form.Field
import GrantKeeper.Grant.ScopeSet

namespace GrantKeeper

/-- A verdict. An inactive one may carry what was known before the check that failed; its response
never shows that. -/
structure Verdict where
  active : Bool
  clientId : Option String
  tokenType : Option String
  scopes : Option ScopeSet
  issuedAt : Option Timestamp
  expiresAt : Option Timestamp
  notBefore : Option Timestamp
  subject : Option String
  audience : Option (List String)
  issuer : Option String
  tokenId : Option String
  deriving DecidableEq

namespace Verdict

/-- The verdict about a token that nothing is known of. -/
def unknown : Verdict :=
  ⟨false, none, none, none, none, none, none, none, none, none, none⟩

def ofForm (fields : Claims) : Checked Verdict :=
  Verdict.mk
    <$> Form.required fields "active" Form.boolean
    <*> Form.field fields "client_id" (Form.optional Form.text) none
    <*> Form.field fields "token_type" (Form.optional Form.text) none
    <*> Form.field fields "scopes"
      (Form.optional fun c => ScopeSet.ofList <$> Form.textSet c) none
    <*> Form.field fields "issued_at" (Form.optional Form.timestamp) none
    <*> Form.field fields "expires_at" (Form.optional Form.timestamp) none
    <*> Form.field fields "not_before" (Form.optional Form.timestamp) none
    <*> Form.field fields "subject" (Form.optional Form.text) none
    <*> Form.field fields "audience" (Form.optional Form.textList) none
    <*> Form.field fields "issuer" (Form.optional Form.text) none
    <*> Form.field fields "jti" (Form.optional Form.text) none

/-- The scopes as one text, blanks between them. -/
def scope (v : Verdict) : Option String :=
  v.scopes.map (·.textWith ' ')

/-- The seconds since 1970 of a verdict's time. -/
def seconds : Option Timestamp → Except Fault (Option Claim)
  | none => .ok none
  | some t =>
    match t.epochSeconds? with
    | some n => .ok (some (.int n))
    | none => .error .noEpochSeconds

/-- The members of the response, each only if there is something to say. -/
def response (v : Verdict) : Except Fault Claims :=
  if v.active then do
    let issued ← seconds v.issuedAt
    let expires ← seconds v.expiresAt
    let notBefore ← seconds v.notBefore
    return [
      ("active", some (.bool true)),
      ("client_id", v.clientId.map .text),
      ("token_type", v.tokenType.map .text),
      ("scope", v.scope.map .text),
      ("iat", issued),
      ("exp", expires),
      ("nbf", notBefore),
      ("sub", v.subject.map .text),
      ("aud", v.audience.map fun items => .list (items.map .text)),
      ("iss", v.issuer.map .text),
      ("jti", v.tokenId.map .text)].filterMap fun (name, value) => value.map (name, ·)
  else .ok [("active", .bool false)]

end Verdict
end GrantKeeper
