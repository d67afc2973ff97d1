/-
Authorizations: one grant of a client and the tokens issued for it.

A token may be put into a slot freely (`withToken`); `brokenRule?` says whether the tokens keep the
rules of their slots, which an authorization read from a form or from the store does.
-/
import GrantKeeper.Grant.Token

namespace GrantKeeper

/-- A grant and its tokens, at most one of each kind. -/
structure Authorization where
  id : String
  registeredClientId : String
  principalName : String
  grantType : String
  attributes : Claims
  tokens : Slot → Option Token

namespace Authorization

/-! ## Tokens -/

/-- The tokens with their slots, in the order of the slots. -/
def held (a : Authorization) : List (Slot × Token) :=
  Slot.all.filterMap fun slot => (a.tokens slot).map (slot, ·)

/-- The first slot that holds a token of a value, and that token. -/
def find? (a : Authorization) (value : String) : Option (Slot × Token) :=
  a.held.find? (·.2.value == value)

/-- The authorization with another token, or none, in a slot. -/
def withToken (a : Authorization) (slot : Slot) (token : Option Token) : Authorization :=
  { a with tokens := fun s => if s = slot then token else a.tokens s }

@[simp] theorem tokens_withToken (a : Authorization) (slot : Slot) (token : Option Token) :
    (a.withToken slot token).tokens slot = token := by
  simp [withToken]

theorem tokens_withToken_of_ne (a : Authorization) {slot s : Slot} (token : Option Token)
    (h : s ≠ slot) : (a.withToken slot token).tokens s = a.tokens s := by
  simp [withToken, h]

theorem mem_held {a : Authorization} {slot : Slot} {token : Token} :
    (slot, token) ∈ a.held ↔ a.tokens slot = some token := by
  simp only [held, List.mem_filterMap, Option.map_eq_some_iff, Prod.mk.injEq]
  constructor
  · rintro ⟨s, _, t, ht, rfl, rfl⟩
    exact ht
  · intro h
    exact ⟨slot, slot.mem_all, token, h, rfl, rfl⟩

/-! ## State -/

/-- The text that ties the authorization to the request it came from: its attribute `state`. -/
def stateText (a : Authorization) : Option String :=
  match a.attributes.get? "state" with
  | none | some .null => none
  | some value => some value.toText

/-- The state for a reader, to whom an integer that is too long cannot be shown. -/
def state (a : Authorization) : Except Fault (Option String) :=
  match a.attributes.get? "state" with
  | none | some .null => .ok none
  | some value => if value.hasOversized then .error .oversizedInteger else .ok (some value.toText)

/-! ## Rules -/

def slotRule? (slot : Slot) (token : Token) : Option Rule :=
  if slot.requiresExpiry ∧ (token.issuedAt = none ∨ token.expiresAt = none) then
    some (.expiryGiven slot)
  else if slot ≠ .access ∧ token.hasAccessFields = true then some (.accessFieldsOnly slot)
  else none

/-- The first rule that a token breaks in its slot. -/
def brokenRule? (a : Authorization) : Option Rule :=
  a.held.findSome? fun (slot, token) => slotRule? slot token

/-- An authorization whose tokens keep the rules of their slots. -/
def Valid (a : Authorization) : Prop :=
  ∀ slot token, a.tokens slot = some token → slotRule? slot token = none

theorem brokenRule?_eq_none_iff {a : Authorization} : a.brokenRule? = none ↔ a.Valid := by
  simp only [brokenRule?, List.findSome?_eq_none_iff, Valid, Prod.forall, mem_held]

/-- The authorization with the given parts, if its tokens keep the rules of their slots. -/
def ofParts (id registeredClientId principalName grantType : String) (attributes : Claims)
    (tokens : Slot → Option Token) : Checked Authorization :=
  let a : Authorization := ⟨id, registeredClientId, principalName, grantType, attributes, tokens⟩
  match a.brokenRule? with
  | none => .ok a
  | some rule => .flawed (.broken rule)

def ofForm (fields : Claims) : Checked Authorization :=
  (ofParts
    <$> Form.required fields "id" Form.text
    <*> Form.required fields "registered_client_id" Form.text
    <*> Form.required fields "principal_name" Form.text
    <*> Form.required fields "authorization_grant_type" Form.text
    <*> Form.field fields "attributes" Form.claimMap []
    <*> Slot.traverse fun slot =>
      Form.field fields slot.name (Form.optional Token.reader) none).join

/-! ## Equality -/

/-- Equality by value. -/
def same (a b : Authorization) : Bool :=
  a.id == b.id && a.registeredClientId == b.registeredClientId &&
    a.principalName == b.principalName && a.grantType == b.grantType &&
    a.attributes.same b.attributes &&
    Slot.all.all fun slot =>
      match a.tokens slot, b.tokens slot with
      | none, none => true
      | some s, some t => s.same t
      | _, _ => false

end Authorization
end GrantKeeper
