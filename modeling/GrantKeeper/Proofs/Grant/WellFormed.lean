/-
Well-formed authorizations: the tokens keep the rules of their slots and every claim map in them
holds each key once.

An authorization read from a form is well formed (`wellFormed_of_ofForm`).  Invalidating a token and
taking the normal form keep it so.  Putting a token into a slot freely keeps the keys but not the
rules.
-/
import GrantKeeper.Grant.Invalidation
import GrantKeeper.Grant.Normal
import GrantKeeper.Proofs.Claim.Stored

namespace GrantKeeper

namespace Token

def keysOnce (t : Token) : Bool :=
  t.metadata.keysOnce && t.claims.all Claims.keysOnce

theorem keysOnce_iff {t : Token} :
    t.keysOnce = true ↔
      t.metadata.keysOnce = true ∧ ∀ claims ∈ t.claims, claims.keysOnce = true := by
  rw [keysOnce, Bool.and_eq_true, Option.all_eq_true]
  rfl

theorem keysOnce_normalIn {t : Token} (h : t.keysOnce = true) (slot : Slot) :
    (t.normalIn slot).keysOnce = true := by
  obtain ⟨hmetadata, hclaims⟩ := keysOnce_iff.mp h
  refine keysOnce_iff.mpr ⟨Claims.keysOnce_normal hmetadata, fun claims hmem => ?_⟩
  obtain ⟨original, horiginal, rfl⟩ := Option.map_eq_some_iff.mp hmem
  exact Claims.keysOnce_normal (hclaims original horiginal)

end Token

namespace Authorization

/-- Each key stands once in the attributes and in the claim maps of every token. -/
structure KeysOnce (a : Authorization) : Prop where
  attributes : a.attributes.keysOnce = true
  tokens : ∀ slot token, a.tokens slot = some token → token.keysOnce = true

/-- An authorization that can be built: its tokens keep the rules of their slots, and its claim maps
hold each key once. -/
structure WellFormed (a : Authorization) : Prop where
  valid : a.Valid
  keysOnce : a.KeysOnce

theorem keysOnce_of_all {a : Authorization} (hattributes : a.attributes.keysOnce = true)
    (htokens : (Slot.all.all fun slot => (a.tokens slot).all Token.keysOnce) = true) :
    a.KeysOnce where
  attributes := hattributes
  tokens slot token h := by
    have hslot := List.all_eq_true.mp htokens slot (Slot.mem_all slot)
    rwa [h] at hslot

/-! ## Putting tokens into slots -/

theorem KeysOnce.withToken {a : Authorization} (h : a.KeysOnce) (slot : Slot)
    {token : Option Token} (htoken : ∀ t ∈ token, t.keysOnce = true) :
    (a.withToken slot token).KeysOnce where
  attributes := h.attributes
  tokens s t ht := by
    by_cases hs : s = slot
    · rw [hs, tokens_withToken] at ht
      exact htoken t ht
    · rw [tokens_withToken_of_ne a token hs] at ht
      exact h.tokens s t ht

/-! ## Invalidating -/

/-- What invalidating a value does to an authorization: nothing where the first token that holds the
value has its flag already or there is none, else it sets that flag. -/
theorem invalidate_cases (a : Authorization) (value : String) :
    (a.invalidate value = a ∧
      ∀ slot token, a.find? value = some (slot, token) → token.invalidated = true) ∨
    ∃ slot token, a.find? value = some (slot, token) ∧ token.invalidated = false ∧
      a.invalidate value = a.withToken slot (some token.invalidate) := by
  unfold invalidate toInvalidate?
  cases hfind : a.find? value with
  | none => exact Or.inl ⟨rfl, fun _ _ h => by cases h⟩
  | some found =>
    obtain ⟨slot, token⟩ := found
    cases hflag : token.invalidated with
    | true =>
      left
      rw [Option.filter_some, if_neg (by simp [hflag])]
      refine ⟨rfl, fun s t h => ?_⟩
      cases h
      exact hflag
    | false =>
      right
      refine ⟨slot, token, rfl, hflag, ?_⟩
      rw [Option.filter_some, if_pos (by simp [hflag])]

theorem exists_find? {a : Authorization} {value : String} {slot : Slot} {token : Token}
    (htoken : a.tokens slot = some token) (hvalue : token.value = value) :
    ∃ s t, a.find? value = some (s, t) := by
  have hsome : (a.find? value).isSome = true :=
    List.find?_isSome.mpr ⟨(slot, token), mem_held.mpr htoken, beq_iff_eq.mpr hvalue⟩
  obtain ⟨⟨s, t⟩, hfind⟩ := Option.isSome_iff_exists.mp hsome
  exact ⟨s, t, hfind⟩

theorem find?_eq_some {a : Authorization} {value : String} {slot : Slot} {token : Token}
    (h : a.find? value = some (slot, token)) :
    a.tokens slot = some token ∧ token.value = value := by
  have hvalue := List.find?_some h
  exact ⟨mem_held.mp (List.mem_of_find?_eq_some h), by simpa using hvalue⟩

theorem id_invalidate (a : Authorization) (value : String) : (a.invalidate value).id = a.id := by
  rcases invalidate_cases a value with ⟨h, _⟩ | ⟨slot, token, _, _, h⟩
  · rw [h]
  · rw [h]
    rfl

theorem KeysOnce.invalidate {a : Authorization} (h : a.KeysOnce) (value : String) :
    (a.invalidate value).KeysOnce := by
  rcases invalidate_cases a value with ⟨heq, _⟩ | ⟨slot, token, hfind, _, heq⟩
  · rwa [heq]
  · rw [heq]
    refine h.withToken slot fun t ht => ?_
    rw [← Option.some_inj.mp ht]
    exact h.tokens slot token (find?_eq_some hfind).1

/-- A token that keeps the rules of a slot can be put there. -/
theorem Valid.withToken {a : Authorization} (h : a.Valid) (slot : Slot) {token : Option Token}
    (htoken : ∀ t ∈ token, slotRule? slot t = none) : (a.withToken slot token).Valid := by
  intro s t ht
  by_cases hs : s = slot
  · subst hs
    rw [tokens_withToken] at ht
    exact htoken t ht
  · rw [tokens_withToken_of_ne a token hs] at ht
    exact h s t ht

theorem Valid.invalidate {a : Authorization} (h : a.Valid) (value : String) :
    (a.invalidate value).Valid := by
  rcases invalidate_cases a value with ⟨heq, _⟩ | ⟨slot, token, hfind, _, heq⟩
  · rwa [heq]
  · rw [heq]
    refine h.withToken slot fun t ht => ?_
    rw [← Option.some_inj.mp ht]
    -- The rules of a slot do not look at the flag.
    exact h slot token (find?_eq_some hfind).1

theorem WellFormed.invalidate {a : Authorization} (h : a.WellFormed) (value : String) :
    (a.invalidate value).WellFormed :=
  ⟨h.valid.invalidate value, h.keysOnce.invalidate value⟩

/-! ## Normal forms -/

theorem tokens_normal_eq_some {a : Authorization} {slot : Slot} {token : Token}
    (h : a.normal.tokens slot = some token) :
    ∃ original, a.tokens slot = some original ∧ token = original.normalIn slot := by
  obtain ⟨original, horiginal, hnormal⟩ := Option.map_eq_some_iff.mp h
  exact ⟨original, horiginal, hnormal.symm⟩

theorem KeysOnce.normal {a : Authorization} (h : a.KeysOnce) : a.normal.KeysOnce where
  attributes := Claims.keysOnce_normal h.attributes
  tokens slot token htoken := by
    obtain ⟨original, horiginal, rfl⟩ := tokens_normal_eq_some htoken
    exact Token.keysOnce_normalIn (h.tokens slot original horiginal) slot

theorem hasAccessFields_normalIn {slot : Slot} (h : slot ≠ .access) (t : Token) :
    (t.normalIn slot).hasAccessFields = false := by
  unfold Token.hasAccessFields Token.normalIn
  rw [if_neg h, if_neg h]
  rfl

/-- The rules of a slot: codes and access tokens have both times, and only access tokens have a type
and scopes. -/
theorem slotRule?_eq_none_iff {slot : Slot} {t : Token} :
    slotRule? slot t = none ↔
      (slot.requiresExpiry = true → t.issuedAt ≠ none ∧ t.expiresAt ≠ none) ∧
      (slot ≠ .access → t.hasAccessFields = false) := by
  unfold slotRule?
  split
  · next hbroken =>
    refine iff_of_false (Option.some_ne_none _) fun hkept => ?_
    obtain ⟨hissued, hexpires⟩ := hkept.1 hbroken.1
    exact hbroken.2.elim hissued hexpires
  · next htimes =>
    rw [not_and, not_or] at htimes
    split
    · next hbroken =>
      refine iff_of_false (Option.some_ne_none _) fun hkept => ?_
      rw [hkept.2 hbroken.1] at hbroken
      cases hbroken.2
    · next haccess =>
      rw [not_and, Bool.not_eq_true] at haccess
      exact iff_of_true rfl ⟨htimes, haccess⟩

/-- The normal form of a token breaks no rule of its slot but one about times that the token itself
breaks. -/
theorem slotRule?_normalIn {slot : Slot} {t : Token} (h : slotRule? slot t = none) :
    slotRule? slot (t.normalIn slot) = none := by
  obtain ⟨htimes, _⟩ := slotRule?_eq_none_iff.mp h
  exact slotRule?_eq_none_iff.mpr ⟨htimes, fun hne => hasAccessFields_normalIn hne t⟩

theorem Valid.normal {a : Authorization} (h : a.Valid) : a.normal.Valid := by
  intro slot token htoken
  obtain ⟨original, horiginal, rfl⟩ := tokens_normal_eq_some htoken
  exact slotRule?_normalIn (h slot original horiginal)

theorem WellFormed.normal {a : Authorization} (h : a.WellFormed) : a.normal.WellFormed :=
  ⟨h.valid.normal, h.keysOnce.normal⟩

end Authorization

/-! ## Forms -/

/-- A field holds its own value or what was read of the value in the form. -/
theorem Form.field_eq_ok {fields : Claims} {name : String} {reader : Form.Reader α}
    {otherwise a : α} (h : Form.field fields name reader otherwise = .ok a) :
    a = otherwise ∨ ∃ c, fields.get? name = some c ∧ reader c = .ok a := by
  rw [Form.field, Checked.under_eq_ok_iff] at h
  cases hget : fields.get? name with
  | none =>
    rw [hget] at h
    cases h
    exact Or.inl rfl
  | some c =>
    rw [hget] at h
    exact Or.inr ⟨c, rfl, h⟩

theorem Form.claimMap_eq_ok {c : Claim} {claims : Claims} (h : Form.claimMap c = .ok claims) :
    c = .map claims := by
  cases c with
  | map entries =>
    cases h
    rfl
  | _ => cases h

theorem Form.optional_eq_ok {reader : Form.Reader α} {c : Claim} {a : Option α}
    (h : Form.optional reader c = .ok a) : a = none ∨ ∃ b, a = some b ∧ reader c = .ok b := by
  unfold Form.optional at h
  split at h
  · cases h
    exact Or.inl rfl
  · obtain ⟨b, hb, rfl⟩ := Checked.map_eq_ok_iff.mp h
    exact Or.inr ⟨b, rfl, hb⟩

/-- Checks of the slots in turn succeed exactly when each of them does. -/
theorem Checked.traverse_eq_ok_iff {effect : Slot → Checked α} {g : Slot → α} :
    Slot.traverse effect = .ok g ↔ ∀ slot, effect slot = .ok (g slot) := by
  constructor
  · intro h slot
    obtain ⟨_, refresh, h₃, hrefresh, rfl⟩ := seq_eq_ok_iff.mp h
    obtain ⟨_, id, h₂, hid, rfl⟩ := seq_eq_ok_iff.mp h₃
    obtain ⟨_, access, h₁, haccess, rfl⟩ := seq_eq_ok_iff.mp h₂
    obtain ⟨code, hcode, rfl⟩ := map_eq_ok_iff.mp h₁
    cases slot <;> assumption
  · intro h
    obtain rfl : effect = fun slot => .ok (g slot) := funext h
    show Checked.ok (Slot.table _ _ _ _) = _
    rw [Slot.table_apply]

theorem Claims.keysOnce_get? {claims : Claims} (h : claims.keysOnce = true) {key : String}
    {c : Claim} (hget : claims.get? key = some c) : c.keysOnce = true := by
  obtain ⟨entry, hentry, rfl⟩ := Option.map_eq_some_iff.mp hget
  exact (keysOnce_iff.mp h).2 entry (List.mem_of_find?_eq_some hentry)

namespace Token

theorem ofParts_eq_ok {value : Value} {issuedAt expiresAt : Option Moment} {metadata : Metadata}
    {claims : Option Claims} {invalidated : Bool} {tokenType : Option String} {scopes : ScopeSet}
    {t : Token}
    (h : ofParts value issuedAt expiresAt metadata claims invalidated tokenType scopes = .ok t) :
    t.metadata = metadata.1 ∧ t.claims = claims := by
  unfold ofParts at h
  split at h
  · cases h
    exact ⟨rfl, rfl⟩
  · cases h

theorem checkMetadata_eq_ok {metadata : Claims} {checked : Metadata}
    (h : checkMetadata metadata = .ok checked) : checked.1 = metadata := by
  unfold checkMetadata at h
  split at h
  · cases h
    rfl
  · cases h

/-- A token read from a form takes its claim maps from it. -/
theorem keysOnce_of_ofForm {fields : Claims} {t : Token} (hfields : fields.keysOnce = true)
    (h : ofForm fields = .ok t) : t.keysOnce = true := by
  obtain ⟨_, scopes, h₇, _, hmade⟩ := Checked.seq_eq_ok_iff.mp (Checked.join_eq_ok_iff.mp h)
  obtain ⟨_, tokenType, h₆, _, rfl⟩ := Checked.seq_eq_ok_iff.mp h₇
  obtain ⟨_, invalidated, h₅, _, rfl⟩ := Checked.seq_eq_ok_iff.mp h₆
  obtain ⟨_, claims, h₄, hclaims, rfl⟩ := Checked.seq_eq_ok_iff.mp h₅
  obtain ⟨_, metadata, h₃, hmetadata, rfl⟩ := Checked.seq_eq_ok_iff.mp h₄
  obtain ⟨_, expiresAt, h₂, _, rfl⟩ := Checked.seq_eq_ok_iff.mp h₃
  obtain ⟨_, issuedAt, h₁, _, rfl⟩ := Checked.seq_eq_ok_iff.mp h₂
  obtain ⟨value, _, rfl⟩ := Checked.map_eq_ok_iff.mp h₁
  obtain ⟨hm, hc⟩ := ofParts_eq_ok hmade
  refine keysOnce_iff.mpr ⟨?_, fun kept hkept => ?_⟩
  · rw [hm]
    rcases Form.field_eq_ok hmetadata with rfl | ⟨c, hget, hread⟩
    · rfl
    · obtain ⟨entries, hmap, hchecked⟩ := Checked.andThen_eq_ok_iff.mp hread
      rw [checkMetadata_eq_ok hchecked]
      have hkeys := Claims.keysOnce_get? hfields hget
      rwa [Form.claimMap_eq_ok hmap] at hkeys
  · rw [hc] at hkept
    rcases Form.field_eq_ok hclaims with rfl | ⟨c, hget, hread⟩
    · cases hkept
    · rcases Form.optional_eq_ok hread with rfl | ⟨entries, rfl, hmap⟩
      · cases hkept
      · have hkeys := Claims.keysOnce_get? hfields hget
        rw [Form.claimMap_eq_ok hmap] at hkeys
        rwa [← Option.some_inj.mp hkept]

theorem keysOnce_of_reader {c : Claim} {t : Token} (hkeys : c.keysOnce = true)
    (h : reader c = .ok t) : t.keysOnce = true := by
  cases c with
  | map fields => exact keysOnce_of_ofForm hkeys h
  | _ => cases h

end Token

namespace Authorization

theorem ofParts_eq_ok {id registeredClientId principalName grantType : String}
    {attributes : Claims} {tokens : Slot → Option Token} {a : Authorization}
    (h : ofParts id registeredClientId principalName grantType attributes tokens = .ok a) :
    a.Valid ∧ a = ⟨id, registeredClientId, principalName, grantType, attributes, tokens⟩ := by
  unfold ofParts at h
  dsimp only at h
  split at h
  · next hrule =>
    cases h
    exact ⟨brokenRule?_eq_none_iff.mp hrule, rfl⟩
  · cases h

/-- What is read from a form is well formed. -/
theorem wellFormed_of_ofForm {fields : Claims} {a : Authorization}
    (hfields : fields.keysOnce = true) (h : ofForm fields = .ok a) : a.WellFormed := by
  obtain ⟨_, tokens, h₅, htokens, hmade⟩ := Checked.seq_eq_ok_iff.mp (Checked.join_eq_ok_iff.mp h)
  obtain ⟨_, attributes, h₄, hattributes, rfl⟩ := Checked.seq_eq_ok_iff.mp h₅
  obtain ⟨_, grantType, h₃, _, rfl⟩ := Checked.seq_eq_ok_iff.mp h₄
  obtain ⟨_, principalName, h₂, _, rfl⟩ := Checked.seq_eq_ok_iff.mp h₃
  obtain ⟨_, registeredClientId, h₁, _, rfl⟩ := Checked.seq_eq_ok_iff.mp h₂
  obtain ⟨id, _, rfl⟩ := Checked.map_eq_ok_iff.mp h₁
  obtain ⟨hvalid, rfl⟩ := ofParts_eq_ok hmade
  refine ⟨hvalid, ?_, fun slot token htoken => ?_⟩
  · show attributes.keysOnce = true
    rcases Form.field_eq_ok hattributes with rfl | ⟨c, hget, hread⟩
    · rfl
    · have hkeys := Claims.keysOnce_get? hfields hget
      rwa [Form.claimMap_eq_ok hread] at hkeys
  · have hslot := Checked.traverse_eq_ok_iff.mp htokens slot
    have htoken : tokens slot = some token := htoken
    rw [htoken] at hslot
    rcases Form.field_eq_ok hslot with hnone | ⟨c, hget, hread⟩
    · cases hnone
    · rcases Form.optional_eq_ok hread with hnone | ⟨read, hsome, hread⟩
      · cases hnone
      · cases hsome
        exact Token.keysOnce_of_reader (Claims.keysOnce_get? hfields hget) hread

end Authorization
end GrantKeeper
