/-
When a token is active.

The first token of a value is active from the moment its time claim names and until it expires, and
where it was invalidated never (`introspect_window`).  So its active moments are one half-open
interval, and a token that was active and no longer is does not become active again.  This takes a
clock whose reading is an instant of the years 1 to 9999: any other reading is a fault
(`introspect_window_not_any_clock`).
-/
import GrantKeeper.Proofs.Introspection.Stored
import GrantKeeper.Proofs.Service.Refinement
import GrantKeeper.Proofs.Time.Epoch

namespace GrantKeeper

/-! ## Windows -/

theorem Moment.not_le {m n : Moment} : ¬m ≤ n ↔ n < m :=
  Nat.not_le

theorem Moment.not_lt {m n : Moment} : ¬m < n ↔ n ≤ m :=
  Nat.not_lt

/-- The moments from a start on and before an end. Where one of them is missing there is no bound on
that side. -/
def window (start stop : Option Moment) : Set Moment :=
  {now | (∀ m ∈ start, m ≤ now) ∧ ∀ m ∈ stop, now < m}

theorem mem_window_iff {start stop : Option Moment} {now : Moment} :
    now ∈ window start stop ↔ start.any (now < ·) = false ∧ stop.any (· ≤ now) = false := by
  cases start <;> cases stop <;> simp [window, Moment.not_le, Moment.not_lt]

/-- What lies between two moments of a window lies in it. -/
theorem mem_window_of_between {start stop : Option Moment} {early mid late : Moment}
    (hearly : early ∈ window start stop) (hlate : late ∈ window start stop) (hmid : early ≤ mid)
    (hmid' : mid ≤ late) : mid ∈ window start stop := by
  refine ⟨fun m hm => ?_, fun m hm => ?_⟩
  · exact Nat.le_trans (hearly.1 m hm) hmid
  · exact Nat.lt_of_le_of_lt hmid' (hlate.2 m hm)

/-! ## Clocks -/

/-- Two readings of the same instant are as good as one. -/
theorem introspect_clock_congr {clock clock' : Timestamp} (h : clock.utcMicros = clock'.utcMicros)
    (directory : Option Directory) (requester : Option String) (value : String)
    (found : Option Authorization) :
    introspect directory clock requester value found =
      introspect directory clock' requester value found := by
  have hinstant : Claim.instantOf clock = Claim.instantOf clock' := by
    rw [Claim.instantOf, Claim.instantOf, Timestamp.toUtc?_eq, Timestamp.toUtc?_eq, h]
  unfold introspect
  rw [hinstant]

namespace Authorization

variable {a : Authorization} {value : String} {slot : Slot} {t : Token}

/-! ## Claims that are read -/

/-- The moment before which a token is not valid, if the claim that counts names one. -/
def notBefore (a : Authorization) (slot : Slot) (t : Token) : Option Moment :=
  (a.toldClaim slot t "nbf").named?

/-- The claims that a verdict reads are read without a fault. -/
structure ReadsClaims (a : Authorization) (slot : Slot) (t : Token) : Prop where
  notBefore : ∃ earliest, (a.toldClaim slot t "nbf").instant.outcome = .ok earliest
  subject : ∃ text, (a.toldClaim slot t "sub").textIfAny = .ok text
  audience : ∃ texts, (a.toldClaim slot t "aud").audience = .ok texts
  issuer : ∃ text, (a.toldClaim slot t "iss").textIfAny = .ok text
  tokenId : ∃ text, (a.toldClaim slot t "jti").textIfAny = .ok text

theorem ReadsClaims.outcome_instant (h : a.ReadsClaims slot t) :
    (a.toldClaim slot t "nbf").instant.outcome = .ok (a.notBefore slot t) := by
  obtain ⟨earliest, hearliest⟩ := h.notBefore
  rw [hearliest, Claim.eq_named?_of_instant hearliest, Authorization.notBefore]

theorem ReadsClaims.exists_projected (h : a.ReadsClaims slot t) (hkeys : a.KeysOnce)
    (ht : a.tokens slot = some t) (clientId : String) (notBefore : Option Moment) :
    ∃ v, Verdict.projected clientId slot t (a.effectiveClaims slot t) notBefore = .ok v := by
  obtain ⟨_, ⟨subject, hsubject⟩, ⟨audience, haudience⟩, ⟨issuer, hissuer⟩, tokenId, htokenId⟩ := h
  unfold Verdict.projected
  dsimp only
  simp only [told_effectiveClaims hkeys ht]
  rw [hsubject, haudience, hissuer, htokenId]
  exact ⟨_, rfl⟩

theorem exists_clientId {directory : Option Directory}
    (h : ∀ d ∈ directory, d.Registered a.registeredClientId) :
    ∃ clientId, a.clientId directory = .ok clientId := by
  cases directory with
  | none => exact ⟨_, rfl⟩
  | some d =>
    obtain ⟨client, hclient⟩ := Option.isSome_iff_exists.mp (h d rfl)
    rw [clientId, hclient]
    exact ⟨_, rfl⟩

end Authorization

/-! ## Verdicts -/

namespace Verdict

variable {a : Authorization} {slot : Slot} {t : Token} {clientId : String} {now : Moment}
  {requester : Option String} {v : Verdict}

theorem active_of_projected {claims : Claims} {notBefore : Option Moment}
    (h : projected clientId slot t claims notBefore = .ok v) : v.active = true :=
  (agrees_of_projected h).active

/-- A token whose claims are read has a verdict, which is active exactly where the token was not
invalidated and the moment lies in its window. -/
theorem exists_ofToken_of_readsClaims (hkeys : a.KeysOnce) (ht : a.tokens slot = some t)
    (hreads : a.ReadsClaims slot t) (clientId : String) (now : Moment) (requester : Option String) :
    ∃ v, (ofToken a slot t clientId now requester).outcome = .ok v ∧
      (v.active = true ↔
        t.invalidated = false ∧ now ∈ window (a.notBefore slot t) t.expiresAt) := by
  rw [outcome_ofToken, Authorization.told_effectiveClaims hkeys ht, hreads.outcome_instant]
  show ∃ v, (if t.invalidated || t.expiresAt.any (· ≤ now) then .ok (basic false clientId t)
    else if (a.notBefore slot t).any (now < ·) then .ok (basic false clientId t)
    else projected clientId slot t (a.effectiveClaims slot t) (a.notBefore slot t)) = .ok v ∧ _
  by_cases husable : t.invalidated = false ∧ now ∈ window (a.notBefore slot t) t.expiresAt
  · obtain ⟨v, hv⟩ := hreads.exists_projected hkeys ht clientId (a.notBefore slot t)
    obtain ⟨hstart, hstop⟩ := mem_window_iff.mp husable.2
    refine ⟨v, ?_, iff_of_true (active_of_projected hv) husable⟩
    rw [husable.1, hstop, hstart]
    exact hv
  · refine ⟨basic false clientId t, ?_, iff_of_false Bool.false_ne_true husable⟩
    split
    · rfl
    · next hspent =>
      split
      · rfl
      · next hearly =>
        rw [Bool.or_eq_true, not_or, Bool.not_eq_true, Bool.not_eq_true] at hspent
        rw [Bool.not_eq_true] at hearly
        exact absurd ⟨hspent.1, mem_window_iff.mpr ⟨hearly, hspent.2⟩⟩ husable

theorem ofToken_inactive (h : (ofToken a slot t clientId now requester).outcome = .ok v)
    (hactive : v.active = false) : v = basic false clientId t := by
  rw [outcome_ofToken] at h
  split at h
  · cases h
    rfl
  · obtain ⟨notBefore, _, h⟩ := Except.bind_eq_ok h
    split at h
    · cases h
      rfl
    · rw [active_of_projected h] at hactive
      cases hactive

theorem response_of_inactive (hactive : v.active = false) :
    v.response = .ok [("active", .bool false)] := by
  rw [response, hactive]
  rfl

/-- A verdict that tells at most the client and the times of the token. -/
def Bare (v : Verdict) : Prop :=
  v = { unknown with clientId := v.clientId, issuedAt := v.issuedAt, expiresAt := v.expiresAt }

end Verdict

/-- An inactive verdict is bare, and where the value is not held it tells nothing at all. -/
theorem introspect_inactive {directory : Option Directory} {clock : Timestamp}
    {requester : Option String} {value : String} {found : Option Authorization} {v : Verdict}
    (h : (introspect directory clock requester value found).outcome = .ok v)
    (hactive : v.active = false) :
    v.Bare ∧ ((∀ a ∈ found, ∀ slot t, a.tokens slot = some t → t.value ≠ value) →
      v = .unknown) := by
  cases found with
  | none =>
    cases h
    exact ⟨rfl, fun _ => rfl⟩
  | some a =>
    cases hfind : a.find? value with
    | none =>
      rw [outcome_introspect_of_not_held _ _ _ hfind] at h
      cases h
      exact ⟨rfl, fun _ => rfl⟩
    | some held =>
      obtain ⟨slot, t⟩ := held
      obtain ⟨ht, hvalue⟩ := Authorization.find?_eq_some hfind
      rw [outcome_introspect_of_held _ _ _ hfind] at h
      obtain ⟨now, _, h⟩ := Except.bind_eq_ok h
      obtain ⟨clientId, _, h⟩ := Except.bind_eq_ok h
      rw [Verdict.ofToken_inactive h hactive]
      exact ⟨rfl, fun hnot => absurd hvalue (hnot a rfl slot t ht)⟩

/-! ## Active moments -/

/-- The moments at which a token is active. -/
def activeMoments (directory : Option Directory) (requester : Option String) (value : String)
    (found : Option Authorization) : Set Moment :=
  {now | ∃ v, (introspect directory (.ofUtc now) requester value found).outcome = .ok v ∧
    v.active = true}

section

variable {a : Authorization} {directory : Option Directory} {value : String} (hkeys : a.KeysOnce)
  (hclient : ∀ d ∈ directory, d.Registered a.registeredClientId)
  (hreads : ∀ slot t, a.HeldFirst value slot t → a.ReadsClaims slot t)

include hkeys hclient hreads

/-- Where the claims of the first token of a value are read, and the client is known, there is a
verdict at every instant, and it is active in the window of that token. -/
theorem exists_introspect {clock : Timestamp} {now : Moment} (hnow : clock.toUtc? = some now)
    (requester : Option String) :
    ∃ v, (introspect directory clock requester value (some a)).outcome = .ok v ∧
      (v.active = true ↔ ∃ slot t, a.HeldFirst value slot t ∧ t.invalidated = false ∧
        now ∈ window (a.notBefore slot t) t.expiresAt) := by
  cases hfind : a.find? value with
  | none =>
    refine ⟨.unknown, outcome_introspect_of_not_held _ _ _ hfind,
      iff_of_false Bool.false_ne_true ?_⟩
    rintro ⟨slot, t, hfirst, _⟩
    rw [Authorization.find?_eq_some_iff.mpr hfirst] at hfind
    cases hfind
  | some held =>
    obtain ⟨slot, t⟩ := held
    have hfirst := Authorization.find?_eq_some_iff.mp hfind
    obtain ⟨clientId, hclientId⟩ := Authorization.exists_clientId hclient
    obtain ⟨v, hv, hactive⟩ := Verdict.exists_ofToken_of_readsClaims hkeys hfirst.held
      (hreads slot t hfirst) clientId now requester
    rw [outcome_introspect_of_held _ _ _ hfind, Claim.outcome_instantOf hnow, hclientId]
    refine ⟨v, hv, hactive.trans ?_⟩
    rw [hfirst.exists_iff]

/-- There is an active verdict about the first token of a value in its window. -/
theorem exists_active_introspect {slot : Slot} {t : Token} (ht : a.HeldFirst value slot t)
    (hvalid : t.invalidated = false) {clock : Timestamp} {now : Moment}
    (hnow : clock.toUtc? = some now) (hwindow : now ∈ window (a.notBefore slot t) t.expiresAt)
    (requester : Option String) :
    ∃ v, (introspect directory clock requester value (some a)).outcome = .ok v ∧
      v.active = true := by
  obtain ⟨v, hv, hactive⟩ := exists_introspect hkeys hclient hreads hnow requester
  exact ⟨v, hv, hactive.mpr ⟨slot, t, ht, hvalid, hwindow⟩⟩

theorem mem_activeMoments_iff (requester : Option String) (now : Moment) :
    now ∈ activeMoments directory requester value (some a) ↔ ∃ slot t, a.HeldFirst value slot t ∧
      t.invalidated = false ∧ now ∈ window (a.notBefore slot t) t.expiresAt := by
  obtain ⟨v, hv, hactive⟩ :=
    exists_introspect hkeys hclient hreads (Timestamp.toUtc?_ofUtc now) requester
  rw [← hactive]
  constructor
  · rintro ⟨w, hw, hwactive⟩
    rw [hv] at hw
    cases hw
    exact hwactive
  · exact fun h => ⟨v, hv, h⟩

/-- A token is never active or in all of its window. -/
theorem activeMoments_eq (requester : Option String) :
    activeMoments directory requester value (some a) = ∅ ∨
      ∃ slot t, a.HeldFirst value slot t ∧ t.invalidated = false ∧
        activeMoments directory requester value (some a) =
          window (a.notBefore slot t) t.expiresAt := by
  have hmem := mem_activeMoments_iff hkeys hclient hreads requester
  by_cases husable : ∃ slot t, a.HeldFirst value slot t ∧ t.invalidated = false
  · obtain ⟨slot, t, hfirst, hflag⟩ := husable
    refine .inr ⟨slot, t, hfirst, hflag, Set.ext fun now => ?_⟩
    rw [hmem now, hfirst.exists_iff]
    exact and_iff_right hflag
  · refine .inl (Set.eq_empty_of_forall_notMem fun now hnow => ?_)
    obtain ⟨slot, t, hfirst, hflag, _⟩ := (hmem now).mp hnow
    exact husable ⟨slot, t, hfirst, hflag⟩

/-- A token that was active and no longer is does not become active again. -/
theorem not_mem_activeMoments_of_le {requester : Option String} {early mid late : Moment}
    (hmid : early ≤ mid) (hlate : mid ≤ late)
    (hactive : early ∈ activeMoments directory requester value (some a))
    (hinactive : mid ∉ activeMoments directory requester value (some a)) :
    late ∉ activeMoments directory requester value (some a) := by
  intro hlate'
  rcases activeMoments_eq hkeys hclient hreads requester with hempty | ⟨_, _, _, _, hwindow⟩
  · rw [hempty] at hactive
    exact hactive
  · rw [hwindow] at hactive hinactive hlate'
    exact hinactive (mem_window_of_between hactive hlate' hmid hlate)

end

/-- When a token is active and what a verdict tells of it when it is not. -/
theorem introspect_window {a : Authorization} {directory : Option Directory} {value : String}
    (hkeys : a.KeysOnce)
    (hclient : ∀ d ∈ directory, d.Registered a.registeredClientId)
    (hreads : ∀ slot t, a.HeldFirst value slot t → a.ReadsClaims slot t)
    (requester : Option String) :
    (∀ clock now, clock.toUtc? = some now →
      ∃ v, (introspect directory clock requester value (some a)).outcome = .ok v ∧
        (v.active = true ↔ ∃ slot t, a.HeldFirst value slot t ∧ t.invalidated = false ∧
          (∀ m ∈ a.notBefore slot t, m ≤ now) ∧ ∀ m ∈ t.expiresAt, now < m)) ∧
    (activeMoments directory requester value (some a) = ∅ ∨
      ∃ slot t, a.HeldFirst value slot t ∧ t.invalidated = false ∧
        activeMoments directory requester value (some a) =
          window (a.notBefore slot t) t.expiresAt) ∧
    (∀ early mid late, early ≤ mid → mid ≤ late →
      early ∈ activeMoments directory requester value (some a) →
      mid ∉ activeMoments directory requester value (some a) →
      late ∉ activeMoments directory requester value (some a)) ∧
    (∀ clock clock' found, clock.utcMicros = clock'.utcMicros →
      introspect directory clock requester value found =
        introspect directory clock' requester value found) ∧
    ∀ clock found v, (introspect directory clock requester value found).outcome = .ok v →
      v.active = false →
      v.Bare ∧
      ((∀ b ∈ found, ∀ slot t, b.tokens slot = some t → t.value ≠ value) → v = .unknown) ∧
      v.response = .ok [("active", .bool false)] := by
  refine ⟨fun clock now hnow => ?_, activeMoments_eq hkeys hclient hreads requester,
    fun early mid late hmid hlate => ?_, fun clock clock' found h => ?_,
    fun clock found v hv hactive => ?_⟩
  · exact exists_introspect hkeys hclient hreads hnow requester
  · exact not_mem_activeMoments_of_le hkeys hclient hreads hmid hlate
  · exact introspect_clock_congr h directory requester value found
  · obtain ⟨hbare, hunknown⟩ := introspect_inactive hv hactive
    exact ⟨hbare, hunknown, Verdict.response_of_inactive hactive⟩

/-! ## Samples -/

theorem sampleAuthorization_heldFirst :
    sampleAuthorization.HeldFirst "at-1" .access sampleToken :=
  Authorization.find?_eq_some_iff.mp rfl

/-- The sample's claims, which tell only a subject, are read. -/
theorem sampleAuthorization_readsClaims :
    sampleAuthorization.ReadsClaims .access sampleToken :=
  ⟨⟨_, rfl⟩, ⟨_, rfl⟩, ⟨_, rfl⟩, ⟨_, rfl⟩, _, rfl⟩

/-- The sample's access token is active in the second before it expires. -/
theorem introspect_window_sample :
    activeMoments (some (.ofList [sampleClient])) none "at-1" (some sampleAuthorization) =
      window none (some ⟨1000000, by decide⟩) := by
  have hclient : ∀ d ∈ some (Directory.ofList [sampleClient]), d.Registered "c1" := by
    intro d hd
    cases hd
    rfl
  obtain ⟨_, hmoments, _⟩ := introspect_window sampleAuthorization_wellFormed.keysOnce
    hclient (sampleAuthorization_heldFirst.forall_iff.mpr sampleAuthorization_readsClaims) none
  rcases hmoments with hempty | ⟨slot, t, hfirst, _, hwindow⟩
  · -- At the moment it was issued it is active, so its moments are not none.
    have hissued : (⟨0, by decide⟩ : Moment) ∈
        activeMoments (some (.ofList [sampleClient])) none "at-1" (some sampleAuthorization) :=
      ⟨_, rfl, rfl⟩
    rw [hempty] at hissued
    exact absurd hissued (Set.notMem_empty _)
  · obtain ⟨rfl, rfl⟩ := sampleAuthorization_heldFirst.unique hfirst
    exact hwindow

theorem TimesOrdered.timeless : TimesOrdered none none := by
  intro m hm
  cases hm

/-- A refresh token without times, which does not expire. -/
def lastingToken : Token :=
  { sampleRefreshToken with
    issuedAt := none
    expiresAt := none
    claims := none
    tokenType := none
    timesOrdered := .timeless }

/-- An authorization with that token. -/
def lastingAuthorization : Authorization :=
  { sampleAuthorization with tokens := Slot.table none none none (some lastingToken) }

theorem lastingAuthorization_wellFormed : lastingAuthorization.WellFormed where
  valid := Authorization.brokenRule?_eq_none_iff.mp rfl
  keysOnce := Authorization.keysOnce_of_all rfl rfl

theorem lastingAuthorization_heldFirst :
    lastingAuthorization.HeldFirst "rt-1" .refresh lastingToken :=
  Authorization.find?_eq_some_iff.mp rfl

theorem lastingAuthorization_readsClaims :
    lastingAuthorization.ReadsClaims .refresh lastingToken :=
  ⟨⟨_, rfl⟩, ⟨_, rfl⟩, ⟨_, rfl⟩, ⟨_, rfl⟩, _, rfl⟩

/-- It is not so that every reading of a clock has a verdict. A token that never expires has none at
the start of year 1 by a clock that is an hour ahead, which on the clock of UTC is no moment. -/
theorem introspect_window_not_any_clock :
    ¬∀ (a : Authorization) (directory : Option Directory) (clock : Timestamp)
      (requester : Option String) (value : String), a.WellFormed →
      (∀ d ∈ directory, d.Registered a.registeredClientId) →
      (∀ slot t, a.HeldFirst value slot t → a.ReadsClaims slot t) →
      ((∃ v, (introspect directory clock requester value (some a)).outcome = .ok v ∧
          v.active = true) ↔
        ∃ slot t, a.HeldFirst value slot t ∧ t.invalidated = false ∧
          (∀ m ∈ a.notBefore slot t, (m.micros : Int) ≤ clock.utcMicros) ∧
          ∀ m ∈ t.expiresAt, clock.utcMicros < m.micros) := by
  intro hany
  have hclient : ∀ d ∈ (none : Option Directory), d.Registered "c1" := by
    intro d hd
    cases hd
  have hreads := lastingAuthorization_heldFirst.forall_iff.mpr lastingAuthorization_readsClaims
  -- No claim names a start and the token does not expire, so no clock reading lies outside.
  have husable (clock : Timestamp) : lastingToken.invalidated = false ∧
      (∀ m ∈ lastingAuthorization.notBefore .refresh lastingToken,
        (m.micros : Int) ≤ clock.utcMicros) ∧
      ∀ m ∈ lastingToken.expiresAt, clock.utcMicros < m.micros := by
    refine ⟨rfl, fun m hm => ?_, fun m hm => ?_⟩
    · cases hm
    · cases hm
  obtain ⟨v, hv, _⟩ := (hany lastingAuthorization none
    ⟨⟨0, by decide⟩, some ⟨3600000000, by decide, by decide⟩⟩ none "rt-1"
    lastingAuthorization_wellFormed hclient hreads).mpr
    (lastingAuthorization_heldFirst.exists_iff.mpr (husable _))
  cases hv

end GrantKeeper
