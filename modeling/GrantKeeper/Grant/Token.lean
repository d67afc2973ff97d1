/-
Tokens: what an authorization holds in a slot.

A token has a value, its times are in order and its metadata leaves the reserved keys alone. That
is in the type; `Token.ofParts` and the checks before it say which parts make a token.
-/
import GrantKeeper.Form.Field
import GrantKeeper.Grant.ScopeSet

namespace GrantKeeper

/-- The metadata key under which the store keeps a token's claims. -/
def claimsKey : String := "metadata.token.claims"

/-- The metadata key under which the store keeps that a token was invalidated. -/
def invalidatedKey : String := "metadata.token.invalidated"

/-- The keys that token metadata leaves to the store, in the order of their characters. -/
def reservedKeys : List String := [claimsKey, invalidatedKey]

/-- Metadata without a reserved key. -/
def Claims.LeavesReserved (metadata : Claims) : Prop :=
  ∀ key ∈ reservedKeys, metadata.has key = false

/-- A token that expires does not do so before it was issued. -/
def TimesOrdered (issuedAt expiresAt : Option Moment) : Prop :=
  ∀ issued ∈ issuedAt, ∀ expires ∈ expiresAt, issued ≤ expires

instance (issuedAt expiresAt : Option Moment) : Decidable (TimesOrdered issuedAt expiresAt) :=
  match issuedAt, expiresAt with
  | some i, some e =>
    if h : i ≤ e then .isTrue (by intro i' hi e' he; cases hi; cases he; exact h)
    else .isFalse fun ordered => h (ordered i rfl e rfl)
  | none, _ => .isTrue (by intro i hi; cases hi)
  | some _, none => .isTrue (by intro i _ e he; cases he)

/-- The one spelling of a bearer token's type; any other type stays as it is. -/
def normalTokenType (type : String) : String :=
  if type.toLower = "bearer" then "Bearer" else type

/-- A token. Its times are those of UTC. -/
structure Token where
  value : String
  issuedAt : Option Moment
  expiresAt : Option Moment
  metadata : Claims
  claims : Option Claims
  invalidated : Bool
  tokenType : Option String
  scopes : ScopeSet
  value_ne : value ≠ ""
  leavesReserved : metadata.LeavesReserved
  timesOrdered : TimesOrdered issuedAt expiresAt

namespace Token

/-! ## From parts -/

/-- A text that can be a token's value. -/
abbrev Value := { s : String // s ≠ "" }

/-- Metadata that a token can have. -/
abbrev Metadata := { metadata : Claims // metadata.LeavesReserved }

def checkValue (s : String) : Checked Value :=
  if h : s ≠ "" then .ok ⟨s, h⟩ else .flawed (.broken .valueGiven)

/-- A claim map as a token's metadata. -/
def checkMetadata (metadata : Claims) : Checked Metadata :=
  if h : (reservedKeys.filter metadata.has) = [] then
    .ok ⟨metadata, fun key hk => by simpa using List.filter_eq_nil_iff.mp h key hk⟩
  else .flawed (.broken (.keysReserved (reservedKeys.filter metadata.has)))

/-- The token with the given parts, if its times are in order. -/
def ofParts (value : Value) (issuedAt expiresAt : Option Moment) (metadata : Metadata)
    (claims : Option Claims) (invalidated : Bool) (tokenType : Option String)
    (scopes : ScopeSet) : Checked Token :=
  if h : TimesOrdered issuedAt expiresAt then
    .ok ⟨value.1, issuedAt, expiresAt, metadata.1, claims, invalidated, tokenType, scopes, value.2,
      metadata.2, h⟩
  else .flawed (.broken .expiryAfterIssue)

def ofForm (fields : Claims) : Checked Token :=
  (ofParts
    <$> Form.required fields "value" (fun c => (Form.text c).andThen checkValue)
    <*> Form.field fields "issued_at" (Form.optional Form.instant) none
    <*> Form.field fields "expires_at" (Form.optional Form.instant) none
    <*> Form.field fields "metadata" (fun c => (Form.claimMap c).andThen checkMetadata)
      ⟨[], fun _ _ => rfl⟩
    <*> Form.field fields "claims" (Form.optional Form.claimMap) none
    <*> Form.field fields "invalidated" Form.boolean false
    <*> Form.field fields "token_type" (Form.optional Form.text) none
    <*> Form.field fields "scopes" (fun c => ScopeSet.ofList <$> Form.textSet c) .empty).join

/-- The reader of a field that holds a token's form. -/
def reader : Form.Reader Token
  | .map fields => ofForm fields
  | _ => .flawed .notEntry

/-! ## Operations -/

/-- The token, no longer usable. -/
def invalidate (t : Token) : Token :=
  { t with invalidated := true }

/-- Whether a token carries what only access tokens may. -/
def hasAccessFields (t : Token) : Bool :=
  t.tokenType.any (· ≠ "") || !t.scopes.isEmpty

/-- Equality by value. -/
def same (a b : Token) : Bool :=
  a.value == b.value && a.issuedAt == b.issuedAt && a.expiresAt == b.expiresAt &&
    a.metadata.same b.metadata &&
    (match a.claims, b.claims with
      | none, none => true
      | some c, some d => c.same d
      | _, _ => false) &&
    a.invalidated == b.invalidated && a.tokenType == b.tokenType && a.scopes == b.scopes

@[simp] theorem invalidate_invalidate (t : Token) : t.invalidate.invalidate = t.invalidate := rfl

@[simp] theorem invalidated_invalidate (t : Token) : t.invalidate.invalidated = true := rfl

end Token
end GrantKeeper
