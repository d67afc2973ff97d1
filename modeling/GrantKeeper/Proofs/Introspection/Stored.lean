/-
The verdict about an authorization and the one about its normal form, which is what the store gives
back.

A time claim names the same instant in normal form (`outcome_instant_normal`), and whatever can be
written can be shown.  So a verdict about an authorization with writable claims has a counterpart
about the normal form that agrees with it on whether, for whom and when the token is valid
(`introspect_normal`); where the claims are their own normal form it differs at most in the spelling
of type and scopes.
-/
import GrantKeeper.Proofs.Introspection.Active
import GrantKeeper.Proofs.Time.IsoText

namespace GrantKeeper

/-! ## Instants of time claims -/

namespace Claim

/-- No timestamp, or one with an offset that reading its text does not lose. -/
def KeepsOffset : Claim → Prop
  | .time t => ∀ offset ∈ t.offset, Iso.KeepsOffset offset
  | _ => True

theorem instantOfText_isoText {t : Timestamp} (h : ∀ offset ∈ t.offset, Iso.KeepsOffset offset)
    {m : Moment} (hm : t.toUtc? = some m) : instantOfText t.isoText = pure (some m) := by
  rw [instantOfText, Timestamp.ofText?_isoText, Timestamp.ofIsoText?_isoText_of_keepsOffset h]
  dsimp only
  rw [Option.bind_some, hm]

theorem outcome_instant_normal {c : Claim} (h : c.KeepsOffset) {instant : Option Moment}
    (hinstant : c.instant.outcome = .ok instant) : c.normal.instant.outcome = .ok instant := by
  cases c with
  | time t =>
    -- A timestamp out of range is a fault in memory, so there is an instant to be found again.
    rw [Claim.instant, Traced.outcome_map] at hinstant
    cases hof : (instantOf t).outcome with
    | error fault =>
      rw [hof] at hinstant
      cases hinstant
    | ok m =>
      rw [hof] at hinstant
      cases hinstant
      rw [normal, Claim.instant, instantOfText_isoText h (instantOf_eq_ok hof)]
      rfl
  | _ => exact hinstant

end Claim

/-! ## Claims that count -/

namespace Claims

theorem mem_of_get? {claims : Claims} {key : String} {c : Claim}
    (h : claims.get? key = some c) : (key, c) ∈ claims := by
  obtain ⟨entry, hfind, rfl⟩ := Option.map_eq_some_iff.mp h
  have hkey : entry.1 = key := by simpa using List.find?_some hfind
  exact hkey ▸ List.mem_of_find?_eq_some hfind

theorem get?_mem_parts {claims : Claims} {key : String} {c : Claim}
    (h : claims.get? key = some c) : c ∈ (Claim.map claims).parts :=
  List.mem_map_of_mem (mem_of_get? h)

end Claims

namespace Authorization

/-- A condition on the claims of every token of an authorization. -/
def ForClaims (P : Claims → Prop) (a : Authorization) : Prop :=
  ∀ slot t claims, a.tokens slot = some t → t.claims = some claims → P claims

/-- The claim that counts for a token is one of some token. -/
theorem layeredClaim_eq_some {a : Authorization} {slot : Slot} {t : Token}
    (ht : a.tokens slot = some t) {key : String} {c : Claim}
    (h : a.layeredClaim slot t key = some c) :
    ∃ s u claims, a.tokens s = some u ∧ u.claims = some claims ∧ claims.get? key = some c := by
  unfold layeredClaim at h
  rcases Option.or_eq_some_iff.mp h with h | ⟨_, h⟩
  · obtain ⟨claims, hclaims, hget⟩ := Option.bind_eq_some_iff.mp h
    exact ⟨slot, t, claims, ht, hclaims, hget⟩
  · split at h
    · cases h
    · obtain ⟨u, hu, h⟩ := Option.bind_eq_some_iff.mp h
      obtain ⟨claims, hclaims, hget⟩ := Option.bind_eq_some_iff.mp h
      exact ⟨.id, u, claims, hu, hclaims, hget⟩

theorem toldClaim_induct {P : Claim → Prop} (hnull : P .null) {a : Authorization}
    (h : a.ForClaims fun claims => ∀ c ∈ (Claim.map claims).parts, P c) {slot : Slot} {t : Token}
    (ht : a.tokens slot = some t) (key : String) : P (a.toldClaim slot t key) := by
  unfold toldClaim
  cases hclaim : a.layeredClaim slot t key with
  | none => exact hnull
  | some c =>
    obtain ⟨s, u, claims, hu, hclaims, hget⟩ := layeredClaim_eq_some ht hclaim
    exact h s u claims hu hclaims c (Claims.get?_mem_parts hget)

theorem fault?_toldClaim {a : Authorization}
    (h : a.ForClaims fun claims => (Claim.map claims).fault? = none) {slot : Slot} {t : Token}
    (ht : a.tokens slot = some t) (key : String) : (a.toldClaim slot t key).fault? = none := by
  refine toldClaim_induct (P := fun c => c.fault? = none) rfl ?_ ht key
  intro s u claims hu hclaims c hc
  exact ((Claim.fault?_eq_none_iff_parts _).mp (h s u claims hu hclaims)).2 c hc

theorem normal_toldClaim_of_plain {a : Authorization}
    (h : a.ForClaims fun claims => ∀ x : Claim, x.Within (.map claims) → x.Plain) {slot : Slot}
    {t : Token} (ht : a.tokens slot = some t) (key : String) :
    (a.toldClaim slot t key).normal = a.toldClaim slot t key := by
  refine toldClaim_induct (P := fun c => c.normal = c) rfl ?_ ht key
  intro s u claims hu hclaims c hc
  exact Claim.normal_eq_self fun x hx => h s u claims hu hclaims x (.part hc hx)

end Authorization

/-! ## Verdicts -/

namespace Verdict

/-- The verdict with the type in its one spelling and the scopes as the store tells them apart. -/
def normal (v : Verdict) : Verdict :=
  { v with
    tokenType := v.tokenType.map normalTokenType
    scopes := v.scopes.map ScopeSet.normal }

/-- Two verdicts agree on whether, for whom and when a token is valid. -/
structure Agrees (w v : Verdict) : Prop where
  active : w.active = v.active
  clientId : w.clientId = v.clientId
  issuedAt : w.issuedAt = v.issuedAt
  expiresAt : w.expiresAt = v.expiresAt
  notBefore : w.notBefore = v.notBefore

theorem Agrees.refl (v : Verdict) : v.Agrees v :=
  ⟨rfl, rfl, rfl, rfl, rfl⟩

theorem Agrees.symm {w v : Verdict} (h : w.Agrees v) : v.Agrees w :=
  ⟨h.active.symm, h.clientId.symm, h.issuedAt.symm, h.expiresAt.symm, h.notBefore.symm⟩

theorem Agrees.trans {u w v : Verdict} (h : u.Agrees w) (h' : w.Agrees v) : u.Agrees v :=
  ⟨h.active.trans h'.active, h.clientId.trans h'.clientId, h.issuedAt.trans h'.issuedAt,
    h.expiresAt.trans h'.expiresAt, h.notBefore.trans h'.notBefore⟩

/-! ## Active tokens -/

/-- Where the claims can be shown there is a verdict about an active token. -/
theorem exists_projected {claims : Claims} (hshown : ∀ key,
    ((claims.get? key).getD .null).hasOversized = false) (clientId : String) (slot : Slot)
    (t : Token) (notBefore : Option Moment) :
    ∃ v, projected clientId slot t claims notBefore = .ok v := by
  unfold projected
  dsimp only
  rw [Claim.textIfAny_eq_ok (hshown "sub"), Claim.audience_eq_ok fun _ => hshown "aud",
    Claim.textIfAny_eq_ok (hshown "iss"), Claim.textIfAny_eq_ok (hshown "jti")]
  exact ⟨_, rfl⟩

theorem agrees_of_projected {claims : Claims} {clientId : String} {slot : Slot} {t : Token}
    {notBefore : Option Moment} {v : Verdict}
    (h : projected clientId slot t claims notBefore = .ok v) :
    v.Agrees { basic true clientId t with notBefore := notBefore.map .ofUtc } := by
  unfold projected at h
  obtain ⟨subject, _, h⟩ := Except.bind_eq_ok h
  obtain ⟨audience, _, h⟩ := Except.bind_eq_ok h
  obtain ⟨issuer, _, h⟩ := Except.bind_eq_ok h
  obtain ⟨tokenId, _, h⟩ := Except.bind_eq_ok h
  cases h
  exact ⟨rfl, rfl, rfl, rfl, rfl⟩

/-- Where the same claims count, the verdict about the token in normal form is in normal form. -/
theorem projected_normalIn {claims claims' : Claims}
    (h : ∀ key, (claims'.get? key).getD .null = (claims.get? key).getD .null)
    (clientId : String) (slot : Slot) (t : Token) (notBefore : Option Moment) :
    projected clientId slot (t.normalIn slot) claims' notBefore =
      Verdict.normal <$> projected clientId slot t claims notBefore := by
  have htype : (if slot = .access then (t.normalIn slot).tokenType else none) =
      (if slot = .access then t.tokenType else none).map normalTokenType := by
    unfold Token.normalIn
    by_cases hs : slot = .access
    · simp only [if_pos hs]
    · simp only [if_neg hs, Option.map_none]
  have hscopes : (if slot = .access then some (t.normalIn slot).scopes else none) =
      (if slot = .access then some t.scopes else none).map ScopeSet.normal := by
    unfold Token.normalIn
    by_cases hs : slot = .access
    · simp only [if_pos hs, Option.map_some]
    · simp only [if_neg hs, Option.map_none]
  unfold projected
  simp only [h, htype, hscopes]
  cases ((claims.get? "sub").getD .null).textIfAny with
  | error fault => rfl
  | ok subject =>
    cases ((claims.get? "aud").getD .null).audience with
    | error fault => rfl
    | ok audience =>
      cases ((claims.get? "iss").getD .null).textIfAny with
      | error fault => rfl
      | ok issuer => cases ((claims.get? "jti").getD .null).textIfAny <;> rfl

end Verdict

/-! ## Verdicts about the normal form -/

namespace Verdict

variable {a : Authorization} {slot : Slot} {t : Token}

/-- A token whose claims can be written has a verdict in normal form too, and both agree. -/
theorem ofToken_normalIn (hkeys : a.KeysOnce) (ht : a.tokens slot = some t)
    (hwritable : a.ForClaims fun claims => (Claim.map claims).fault? = none)
    (hoffset : (a.toldClaim slot t "nbf").KeepsOffset) {clientId : String} {now : Moment}
    {requester : Option String} {v : Verdict}
    (h : (ofToken a slot t clientId now requester).outcome = .ok v) :
    ∃ w, (ofToken a.normal slot (t.normalIn slot) clientId now requester).outcome = .ok w ∧
      w.Agrees v := by
  rw [outcome_ofToken, Authorization.told_effectiveClaims hkeys ht] at h
  rw [outcome_ofToken, Authorization.told_effectiveClaims_normal hkeys ht]
  -- Flag and end are the token's own in either case.
  show ∃ w, (if t.invalidated || t.expiresAt.any (· ≤ now) then _ else _) = _ ∧ _
  by_cases hspent : (t.invalidated || t.expiresAt.any (· ≤ now)) = true
  · rw [if_pos hspent] at h ⊢
    cases h
    exact ⟨_, rfl, rfl, rfl, rfl, rfl, rfl⟩
  · rw [if_neg hspent] at h ⊢
    obtain ⟨notBefore, hinstant, h⟩ := Except.bind_eq_ok h
    rw [Claim.outcome_instant_normal hoffset hinstant]
    show ∃ w, (if notBefore.any (now < ·) then _ else _) = _ ∧ _
    by_cases hearly : notBefore.any (now < ·) = true
    · rw [if_pos hearly] at h ⊢
      cases h
      exact ⟨_, rfl, rfl, rfl, rfl, rfl, rfl⟩
    · rw [if_neg hearly] at h ⊢
      have hshown : ∀ key, (((a.normal.effectiveClaims slot (t.normalIn slot)).get? key).getD
          .null).hasOversized = false := by
        intro key
        rw [Authorization.told_effectiveClaims_normal hkeys ht]
        exact Claim.hasOversized_of_fault?_eq_none
          (Claim.fault?_normal (Authorization.fault?_toldClaim hwritable ht key))
      obtain ⟨w, hw⟩ := exists_projected hshown clientId slot (t.normalIn slot) notBefore
      have hthen := agrees_of_projected hw
      have hnow := agrees_of_projected h
      exact ⟨w, hw, hthen.trans hnow.symm⟩

/-- A token judged by claims that are their own normal form has the same verdict in normal form, up
to the spelling of its type and scopes. -/
theorem outcome_ofToken_normalIn (hkeys : a.KeysOnce) (ht : a.tokens slot = some t)
    (hplain : ∀ key, (a.toldClaim slot t key).normal = a.toldClaim slot t key) (clientId : String)
    (now : Moment) (requester : Option String) :
    (ofToken a.normal slot (t.normalIn slot) clientId now requester).outcome =
      Verdict.normal <$> (ofToken a slot t clientId now requester).outcome := by
  have hsame : ∀ key, ((a.normal.effectiveClaims slot (t.normalIn slot)).get? key).getD .null =
      ((a.effectiveClaims slot t).get? key).getD .null := by
    intro key
    rw [Authorization.told_effectiveClaims hkeys ht, ← hplain]
    exact Authorization.told_effectiveClaims_normal hkeys ht key
  rw [outcome_ofToken, outcome_ofToken, hsame]
  simp only [projected_normalIn hsame]
  show (if t.invalidated || t.expiresAt.any (· ≤ now) then _ else _) = _
  split
  · rfl
  · cases (((a.effectiveClaims slot t).get? "nbf").getD .null).instant.outcome with
    | error fault => rfl
    | ok notBefore =>
      show (if notBefore.any (now < ·) then _ else _) =
        Verdict.normal <$> (if notBefore.any (now < ·) then _ else _)
      split <;> rfl

end Verdict

/-- A verdict about an authorization whose claims can be written has a counterpart about the normal
form, and both agree. -/
theorem introspect_normal {a : Authorization} (hkeys : a.KeysOnce)
    (hwritable : a.ForClaims fun claims => (Claim.map claims).fault? = none)
    {directory : Option Directory} {clock : Timestamp} {requester : Option String} {value : String}
    (hoffset : ∀ slot t, a.HeldFirst value slot t → (a.toldClaim slot t "nbf").KeepsOffset)
    {v : Verdict} (h : (introspect directory clock requester value (some a)).outcome = .ok v) :
    ∃ w, (introspect directory clock requester value (some a.normal)).outcome = .ok w ∧
      w.Agrees v := by
  cases hfind : a.find? value with
  | none =>
    have hnone : a.normal.find? value = none := by rw [a.find?_normal, hfind, Option.map_none]
    rw [outcome_introspect_of_not_held directory clock requester hfind] at h
    exact ⟨v, (outcome_introspect_of_not_held directory clock requester hnone).trans h, .refl v⟩
  | some held =>
    obtain ⟨slot, t⟩ := held
    have hfirst := Authorization.find?_eq_some_iff.mp hfind
    have hsome : a.normal.find? value = some (slot, t.normalIn slot) := by
      rw [a.find?_normal, hfind, Option.map_some]
    rw [outcome_introspect_of_held directory clock requester hfind] at h
    obtain ⟨now, hnow, h⟩ := Except.bind_eq_ok h
    obtain ⟨clientId, hclient, h⟩ := Except.bind_eq_ok h
    have hclient' : a.normal.clientId directory = .ok clientId := hclient
    rw [outcome_introspect_of_held directory clock requester hsome, hnow, hclient']
    exact Verdict.ofToken_normalIn hkeys hfirst.held hwritable (hoffset slot t hfirst) h

/-- Where the claims of all tokens are their own normal form, so is the verdict up to the spelling
of type and scopes, or the same fault stands in its place. -/
theorem outcome_introspect_normal {a : Authorization} (hkeys : a.KeysOnce)
    (hplain : a.ForClaims fun claims => ∀ x : Claim, x.Within (.map claims) → x.Plain)
    (directory : Option Directory) (clock : Timestamp) (requester : Option String)
    (value : String) :
    (introspect directory clock requester value (some a.normal)).outcome =
      Verdict.normal <$> (introspect directory clock requester value (some a)).outcome := by
  cases hfind : a.find? value with
  | none =>
    have hnone : a.normal.find? value = none := by rw [a.find?_normal, hfind, Option.map_none]
    rw [outcome_introspect_of_not_held directory clock requester hfind,
      outcome_introspect_of_not_held directory clock requester hnone]
    rfl
  | some held =>
    obtain ⟨slot, t⟩ := held
    have ht := (Authorization.find?_eq_some hfind).1
    have hsome : a.normal.find? value = some (slot, t.normalIn slot) := by
      rw [a.find?_normal, hfind, Option.map_some]
    have hclient : a.normal.clientId directory = a.clientId directory := rfl
    have htold := Authorization.normal_toldClaim_of_plain hplain ht
    rw [outcome_introspect_of_held directory clock requester hfind,
      outcome_introspect_of_held directory clock requester hsome, hclient]
    simp only [Verdict.outcome_ofToken_normalIn hkeys ht htold]
    cases (Claim.instantOf clock).outcome with
    | error fault => rfl
    | ok now => cases a.clientId directory <;> rfl

end GrantKeeper
