/-
Invalidation is terminal: a token that was invalidated is never called active again.

The invariant is that every held authorization has the token's value in invalidated tokens only
(`Service.Revoked`).  The flag is stored and loaded, so it survives every cycle of loading, editing
and saving again, and every step that is permitted afterwards keeps the invariant
(`Revoked.perform`).  An active verdict would need a token of the value without the flag.
-/
import GrantKeeper.Proofs.Service.Introspection

namespace GrantKeeper

open Service

namespace Authorization

def AllInvalidated (a : Authorization) (value : String) : Prop :=
  ∀ slot t, a.tokens slot = some t → t.value = value → t.invalidated = true

/-- What an authorization can be made into without a new token of a value: by invalidating values
and by putting other tokens, or none, into slots. -/
inductive EditedWithout (value : String) (a : Authorization) : Authorization → Prop
  | refl : EditedWithout value a a
  | invalidate {b : Authorization} (h : EditedWithout value a b) (other : String) :
      EditedWithout value a (b.invalidate other)
  | withToken {b : Authorization} (h : EditedWithout value a b) (slot : Slot)
      {token : Option Token} (hkeys : ∀ t ∈ token, t.keysOnce = true)
      (hvalue : ∀ t ∈ token, t.value ≠ value) : EditedWithout value a (b.withToken slot token)

variable {a : Authorization} {value : String}

theorem AllInvalidated.withToken (h : a.AllInvalidated value) (slot : Slot) {token : Option Token}
    (htoken : ∀ t ∈ token, t.value = value → t.invalidated = true) :
    (a.withToken slot token).AllInvalidated value := by
  intro s t ht
  by_cases hs : s = slot
  · rw [hs, tokens_withToken] at ht
    exact htoken t ht
  · rw [tokens_withToken_of_ne a token hs] at ht
    exact h s t ht

theorem AllInvalidated.invalidate (h : a.AllInvalidated value) (other : String) :
    (a.invalidate other).AllInvalidated value := by
  rcases invalidate_cases a other with ⟨heq, _⟩ | ⟨slot, token, _, _, heq⟩
  · rwa [heq]
  · rw [heq]
    refine h.withToken slot fun t ht _ => ?_
    rw [← Option.some_inj.mp ht]
    exact token.invalidated_invalidate

/-- The flag is among what is stored and loaded. -/
theorem AllInvalidated.normal (h : a.AllInvalidated value) : a.normal.AllInvalidated value := by
  intro slot t ht hvalue
  obtain ⟨original, horiginal, rfl⟩ := tokens_normal_eq_some ht
  exact h slot original horiginal hvalue

theorem AllInvalidated.edited (h : a.AllInvalidated value) {b : Authorization}
    (hedit : EditedWithout value a b) : b.AllInvalidated value := by
  induction hedit with
  | refl => exact h
  | invalidate _ other ih => exact ih.invalidate other
  | withToken _ slot _ hvalue ih =>
    exact ih.withToken slot fun t ht heq => absurd heq (hvalue t ht)

theorem KeysOnce.edited (h : a.KeysOnce) {b : Authorization} (hedit : EditedWithout value a b) :
    b.KeysOnce := by
  induction hedit with
  | refl => exact h
  | invalidate _ other ih => exact ih.invalidate other
  | withToken _ slot hkeys _ ih => exact ih.withToken slot hkeys

/-- Invalidating a value that one slot holds leaves no token of the value usable. -/
theorem allInvalidated_invalidate
    (honce : ∃! slot, ∃ t, a.tokens slot = some t ∧ t.value = value) :
    (a.invalidate value).AllInvalidated value := by
  obtain ⟨slot, _, honly⟩ := honce
  have hsame : ∀ s u w v, a.tokens s = some u → u.value = value → a.tokens w = some v →
      v.value = value → s = w := fun s u w v hu huvalue hv hvvalue =>
    (honly s ⟨u, hu, huvalue⟩).trans (honly w ⟨v, hv, hvvalue⟩).symm
  intro s u hu hvalue
  rcases invalidate_cases a value with ⟨heq, hflag⟩ | ⟨first, v, hfind, _, heq⟩
  · rw [heq] at hu
    obtain ⟨first, v, hfind⟩ := exists_find? hu hvalue
    obtain ⟨hv, hvvalue⟩ := find?_eq_some hfind
    rw [hsame s u first v hu hvalue hv hvvalue, hv] at hu
    rw [← Option.some_inj.mp hu]
    exact hflag first v hfind
  · rw [heq] at hu
    obtain ⟨hv, hvvalue⟩ := find?_eq_some hfind
    by_cases hs : s = first
    · rw [hs, tokens_withToken] at hu
      rw [← Option.some_inj.mp hu]
      exact v.invalidated_invalidate
    · rw [tokens_withToken_of_ne a _ hs] at hu
      exact absurd (hsame s u first v hu hvalue hv hvvalue) hs

end Authorization

namespace Service

/-- What may be asked of a service once a value of the authorization with an id was invalidated:
registering and unregistering clients, removing anything, saving another authorization without a
token of the value, and saving what the id's authorization was edited into since it was last
loaded. -/
inductive Permits (s : Service) (id value : String) : Request → Prop
  | register (client : Client) : Permits s id value (.register client)
  | unregister (client : String) : Permits s id value (.unregister client)
  | remove (a : Option Authorization) : Permits s id value (.remove a)
  | saveOther {a : Authorization} (hid : a.id ≠ id) (hkeys : a.KeysOnce)
      (hvalue : ∀ slot t, a.tokens slot = some t → t.value ≠ value) :
      Permits s id value (.save (some a))
  | saveEdited {a b : Authorization}
      (hfound : (s.store.findById s.directory id).outcome = .ok (some b))
      (hedit : b.EditedWithout value a) : Permits s id value (.save (some a))

/-- The services that permitted requests, one after another, lead to. -/
inductive Continues (id value : String) (s : Service) : Service → Prop
  | refl : Continues id value s s
  | step {t : Service} {request : Request} (h : Continues id value s t)
      (hrequest : t.Permits id value request) : Continues id value s (t.perform request).1

/-- A service whose store holds a value in invalidated tokens only. -/
def Revoked (s : Service) (value : String) : Prop :=
  ∃ held, s.store.Represents held ∧
    ∀ id a, held id = some a → a.KeysOnce ∧ a.AllInvalidated value

theorem Revoked.perform {s : Service} {id value : String} {request : Request}
    (h : s.Revoked value) (hrequest : s.Permits id value request) :
    (s.perform request).1.Revoked value := by
  obtain ⟨held, hstore, hheld⟩ := h
  refine ⟨s.record held request, hstore.perform request, fun i a ha => ?_⟩
  rcases s.record_cases held request with hrecord | hrecord
  · rw [hrecord] at ha
    exact hheld i a ha
  · rw [hrecord] at ha
    rcases request.effect_cases ha with hold | rfl
    · exact hheld i a hold
    · cases hrequest with
      | saveOther _ hkeys hvalue =>
        exact ⟨hkeys, fun slot t ht heq => absurd heq (hvalue slot t ht)⟩
      | saveEdited hfound hedit =>
        -- What was loaded is the normal form of what is held, which keeps the flags.
        obtain ⟨c, hc, rfl⟩ := hstore.findById_eq_some (fun i b hb => (hheld i b hb).1) hfound
        obtain ⟨hkeys, hflags⟩ := hheld _ c hc
        exact ⟨hkeys.normal.edited hedit, hflags.normal.edited hedit⟩

theorem Revoked.continues {s t : Service} {id value : String} (h : s.Revoked value)
    (hcontinue : s.Continues id value t) : t.Revoked value := by
  induction hcontinue with
  | refl => exact h
  | step _ hrequest ih => exact ih.perform hrequest

/-- Where a value is held in invalidated tokens only, no verdict about it is active. -/
theorem Revoked.not_active {s : Service} {value : String} (h : s.Revoked value)
    {clock : Timestamp} {requester hint : Option String} {verdict : Verdict}
    (hverdict : (s.store.introspect s.directory clock value requester hint).outcome =
      .ok verdict) : verdict.active = false := by
  obtain ⟨held, hstore, hheld⟩ := h
  rw [← Bool.not_eq_true]
  intro hactive
  obtain ⟨id, a, now, ha, _, hjustifies, _⟩ :=
    hstore.introspect_active (fun i b hb => (hheld i b hb).1) hverdict hactive
  obtain ⟨slot, t, hfirst, hflag, _⟩ := hjustifies.usable
  rw [(hheld id a ha).2 slot t hfirst.held hfirst.value_eq] at hflag
  cases hflag

/-- Saving an authorization with the only token of a value invalidated revokes the value. -/
theorem revoked_of_invalidate {s : Service} {held : Holdings} (hstore : s.store.Represents held)
    (hkeys : ∀ id a, held id = some a → a.KeysOnce) {a : Authorization} {value : String}
    (ha : a.KeysOnce) (honce : ∃! slot, ∃ t, a.tokens slot = some t ∧ t.value = value)
    (hothers : ∀ id b, id ≠ a.id → held id = some b →
      ∀ slot t, b.tokens slot = some t → t.value ≠ value)
    (hsave : (s.perform (.save (some (a.invalidate value)))).2.outcome = .ok .done) :
    (s.perform (.save (some (a.invalidate value)))).1.Revoked value := by
  refine ⟨_, hstore.perform _, fun id b hb => ?_⟩
  rw [record, hsave] at hb
  by_cases hid : id = (a.invalidate value).id
  · have hsaved : some (a.invalidate value) = some b := (if_pos hid).symm.trans hb
    cases hsaved
    exact ⟨ha.invalidate value, Authorization.allInvalidated_invalidate honce⟩
  · have hold : held id = some b := (if_neg hid).symm.trans hb
    rw [Authorization.id_invalidate] at hid
    exact ⟨hkeys id b hold, fun slot t ht heq => absurd heq (hothers id b hid hold slot t ht)⟩

end Service

/-- Once an authorization was saved with its only token of a value invalidated, and no other one
holds the value, no permitted continuation leads to where a verdict about the value is active. -/
theorem introspect_after_invalidate {before : List Request}
    (hsaved : ∀ b, .save (some b) ∈ before → b.KeysOnce) {a : Authorization} {value : String}
    (ha : a.KeysOnce) (honce : ∃! slot, ∃ t, a.tokens slot = some t ∧ t.value = value)
    (hothers : ∀ id b, id ≠ a.id → lastSaved before id = some b →
      ∀ slot t, b.tokens slot = some t → t.value ≠ value)
    (hsave : ((empty.run before).perform (.save (some (a.invalidate value)))).2.outcome =
      .ok .done)
    {s : Service}
    (hcontinue : ((empty.run before).perform (.save (some (a.invalidate value)))).1.Continues a.id
      value s)
    {clock : Timestamp} {requester hint : Option String} {verdict : Verdict}
    (hverdict : (s.store.introspect s.directory clock value requester hint).outcome =
      .ok verdict) : verdict.active = false :=
  ((revoked_of_invalidate (represents_run before) (lastSaved_forall hsaved) ha honce hothers
    hsave).continues hcontinue).not_active hverdict

/-! ## A run -/

/-- What the sample authorization is edited into after its access token was invalidated: it is
loaded and its refresh token invalidated as well. -/
def editedAuthorization : Authorization :=
  (sampleAuthorization.invalidate "at-1").normal.invalidate "rt-1"

/-- The access token is invalidated and the client comes and goes. -/
def revokedRequests : List Request :=
  issuedRequests ++ [.save (some (sampleAuthorization.invalidate "at-1")), .unregister "c1",
    .register sampleClient]

def editingRequests : List Request :=
  revokedRequests ++ [.save (some editedAuthorization)]

theorem editingRequests_continues :
    ((empty.run issuedRequests).perform
      (.save (some (sampleAuthorization.invalidate "at-1")))).1.Continues "a1" "at-1"
        (empty.run editingRequests) := by
  have hfound : ((empty.run revokedRequests).store.findById (empty.run revokedRequests).directory
      "a1").outcome = .ok (some (sampleAuthorization.invalidate "at-1").normal) := by
    have hid : Text.isBlankText "a1" = false := by decide
    have hclient : (empty.run revokedRequests).directory.Registered "c1" := rfl
    obtain ⟨row, hwritten, hload⟩ := (represents_run revokedRequests).findById_of_some
      (empty.run revokedRequests).directory hid rfl
    rw [hload, Row.load_of_registered hwritten
      (sampleAuthorization_wellFormed.invalidate "at-1") hclient]
    rfl
  exact .step (.step (.step .refl (.unregister "c1")) (.register sampleClient))
    (.saveEdited hfound (.invalidate .refl "rt-1"))

theorem introspect_after_invalidate_sample :
    ∃ verdict : Verdict,
      ((empty.run editingRequests).store.introspect (empty.run editingRequests).directory
        (.naive ⟨500000, by decide⟩) "at-1" none none).outcome = .ok verdict ∧
      verdict.active = false := by
  have honce : ∃! slot, ∃ t, sampleAuthorization.tokens slot = some t ∧ t.value = "at-1" := by
    refine ⟨.access, ⟨sampleToken, rfl, rfl⟩, ?_⟩
    rintro slot ⟨t, ht, hvalue⟩
    cases slot with
    | access => rfl
    | refresh =>
      cases ht
      exact absurd hvalue (by decide)
    | code => cases ht
    | id => cases ht
  have hothers : ∀ id b, id ≠ sampleAuthorization.id → lastSaved issuedRequests id = some b →
      ∀ slot t, b.tokens slot = some t → t.value ≠ "at-1" := by
    intro id b hid hb
    have hnone : lastSaved issuedRequests id = none := if_neg hid
    rw [hnone] at hb
    cases hb
  have honly : ∀ other, other ≠ "a1" → lastSaved editingRequests other = none := fun other h =>
    (if_neg h).trans ((if_neg h).trans (if_neg h))
  have hname : "access_token" ∈ lookupNames := by decide
  have howners : (lastSaved editingRequests).owners "at-1" none = {"a1"} :=
    Holdings.owners_eq_singleton rfl honly hname rfl
  have hclient : (empty.run editingRequests).directory.Registered "c1" := rfl
  have hverdict := (represents_run editingRequests).introspect_of_only_owner (by decide) howners rfl
    ((sampleAuthorization_wellFormed.invalidate "at-1").normal.invalidate "rt-1") hclient
    (.naive ⟨500000, by decide⟩) none none
  obtain ⟨verdict, hjudged⟩ : ∃ verdict : Verdict,
      (introspect (some (empty.run editingRequests).directory) (.naive ⟨500000, by decide⟩) none
        "at-1" (some editedAuthorization.normal)).outcome = .ok verdict := ⟨_, rfl⟩
  have hanswer := hverdict.trans hjudged
  exact ⟨verdict, hanswer, introspect_after_invalidate
    (fun b hb => (issuedRequests_wellFormed b hb).keysOnce) sampleAuthorization_wellFormed.keysOnce
    honce hothers rfl editingRequests_continues hanswer⟩

end GrantKeeper
