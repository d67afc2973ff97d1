/-
Claims that keep a token from being judged.

A time claim is in the way where it cannot be read (`Claim.InstantFault`), the other claims that are
shown where one of them holds an integer too long for that (`Authorization.Unshown`), and the first
comes before the others (`Authorization.ClaimFault`).  At an instant of the clock nothing else is in
the way of a verdict (`introspect_faults`).
-/
import GrantKeeper.Proofs.Introspection.Window
import GrantKeeper.Proofs.Outcome

namespace GrantKeeper

/-! ## Verdicts -/

theorem Moment.any_lt_eq_false_iff {start : Option Moment} {now : Moment} :
    start.any (now < ·) = false ↔ ∀ m ∈ start, m ≤ now := by
  cases start <;> simp [Moment.not_lt]

theorem Moment.any_le_eq_false_iff {stop : Option Moment} {now : Moment} :
    stop.any (· ≤ now) = false ↔ ∀ m ∈ stop, now < m := by
  cases stop <;> simp [Moment.not_le]

namespace Authorization

variable {a : Authorization} {slot : Slot} {t : Token} {now : Moment}

/-- One of the claims that a verdict tells cannot be shown. An audience is told only where it is a
text or several values. -/
def Unshown (a : Authorization) (slot : Slot) (t : Token) : Prop :=
  (a.toldClaim slot t "sub").Overlong ∨
    ((a.toldClaim slot t "aud").IsSeveral ∧ (a.toldClaim slot t "aud").Overlong) ∨
    (a.toldClaim slot t "iss").Overlong ∨ (a.toldClaim slot t "jti").Overlong

/-- A token is valid already, whatever its time claim names. -/
def Begun (a : Authorization) (slot : Slot) (t : Token) (now : Moment) : Prop :=
  ∀ m ∈ (a.toldClaim slot t "nbf").named?, m ≤ now

/-- What the claims of a token keep it from being judged for at a moment: its time claim, or if that
is read and the token is valid already the claims that are told. -/
inductive ClaimFault (a : Authorization) (slot : Slot) (t : Token) (now : Moment) :
    Fault → Prop where
  | start {fault : Fault} (h : (a.toldClaim slot t "nbf").InstantFault fault) :
    ClaimFault a slot t now fault
  | told (hstart : ∀ fault, ¬(a.toldClaim slot t "nbf").InstantFault fault)
      (hbegun : a.Begun slot t now) (h : a.Unshown slot t) :
    ClaimFault a slot t now .oversizedInteger

end Authorization

namespace Verdict

variable {a : Authorization} {slot : Slot} {t : Token}

theorem failsIff_projected (hkeys : a.KeysOnce) (ht : a.tokens slot = some t) (clientId : String)
    (notBefore : Option Moment) :
    Except.FailsIff (projected clientId slot t (a.effectiveClaims slot t) notBefore)
      .oversizedInteger (a.Unshown slot t) := by
  unfold projected
  dsimp only
  simp only [Authorization.told_effectiveClaims hkeys ht]
  refine Except.FailsIff.congr ((Claim.failsIff_textIfAny _).bind fun subject =>
    (Claim.failsIff_audience _).bind fun audience => (Claim.failsIff_textIfAny _).bind fun issuer =>
    (Claim.failsIff_textIfAny _).bind fun tokenId => Except.FailsIff.ok _ _) ?_
  rw [or_false]
  rfl

/-- What comes of judging a token: its flag or its end decides, its time claim cannot be read or
says that it is too early, or its claims are told. -/
inductive Judged (a : Authorization) (slot : Slot) (t : Token) (clientId : String) (now : Moment) :
    Except Fault Verdict → Prop where
  | spent (h : ¬(t.invalidated = false ∧ ∀ m ∈ t.expiresAt, now < m)) :
    Judged a slot t clientId now (.ok (basic false clientId t))
  | unread (husable : t.invalidated = false ∧ ∀ m ∈ t.expiresAt, now < m) {fault : Fault}
      (h : (a.toldClaim slot t "nbf").InstantFault fault) :
    Judged a slot t clientId now (.error fault)
  | early (hstart : ∀ fault, ¬(a.toldClaim slot t "nbf").InstantFault fault)
      (h : ¬a.Begun slot t now) : Judged a slot t clientId now (.ok (basic false clientId t))
  | told (husable : t.invalidated = false ∧ ∀ m ∈ t.expiresAt, now < m)
      (hstart : ∀ fault, ¬(a.toldClaim slot t "nbf").InstantFault fault)
      (hbegun : a.Begun slot t now) :
    Judged a slot t clientId now (projected clientId slot t (a.effectiveClaims slot t)
      (a.toldClaim slot t "nbf").named?)

theorem judged_ofToken (hkeys : a.KeysOnce) (ht : a.tokens slot = some t) (clientId : String)
    (now : Moment) (requester : Option String) :
    Judged a slot t clientId now (ofToken a slot t clientId now requester).outcome := by
  have husable : (t.invalidated || t.expiresAt.any (· ≤ now)) = false ↔
      t.invalidated = false ∧ ∀ m ∈ t.expiresAt, now < m := by
    rw [Bool.or_eq_false_iff, Moment.any_le_eq_false_iff]
  rw [outcome_ofToken, Authorization.told_effectiveClaims hkeys ht]
  cases hspent : t.invalidated || t.expiresAt.any (· ≤ now) with
  | true =>
    rw [if_pos rfl]
    refine .spent fun h => ?_
    rw [husable.mpr h] at hspent
    cases hspent
  | false =>
    rw [if_neg Bool.false_ne_true]
    rcases (a.toldClaim slot t "nbf").outcome_instant_cases with
      ⟨hstart, hread⟩ | ⟨fault, hfault, hread⟩
    · rw [hread]
      show Judged a slot t clientId now
        (if (a.toldClaim slot t "nbf").named?.any (now < ·) then _ else _)
      cases hearly : (a.toldClaim slot t "nbf").named?.any (now < ·) with
      | true =>
        refine .early hstart fun hbegun => ?_
        rw [Moment.any_lt_eq_false_iff.mpr hbegun] at hearly
        cases hearly
      | false => exact .told (husable.mp hspent) hstart (Moment.any_lt_eq_false_iff.mp hearly)
    · rw [hread]
      exact .unread (husable.mp hspent) hfault

variable {clientId : String} {now : Moment} {outcome : Except Fault Verdict}

/-- A token is not judged exactly if its flag and its end do not decide and its claims are in the
way. -/
theorem Judged.eq_error_iff (h : Judged a slot t clientId now outcome) (hkeys : a.KeysOnce)
    (ht : a.tokens slot = some t) {fault : Fault} :
    outcome = .error fault ↔
      t.invalidated = false ∧ (∀ m ∈ t.expiresAt, now < m) ∧ a.ClaimFault slot t now fault := by
  cases h with
  | spent hspent => exact iff_of_false nofun fun h => hspent ⟨h.1, h.2.1⟩
  | @unread husable first hfirst =>
    constructor
    · intro h
      cases h
      exact ⟨husable.1, husable.2, .start hfirst⟩
    · rintro ⟨_, _, hfault⟩
      cases hfault with
      | start h => rw [hfirst.unique h]
      | told hstart _ _ => exact absurd hfirst (hstart first)
  | early hstart hearly =>
    refine iff_of_false nofun ?_
    rintro ⟨_, _, hfault⟩
    cases hfault with
    | start h => exact hstart fault h
    | told _ hbegun _ => exact hearly hbegun
  | told husable hstart hbegun =>
    rw [failsIff_projected hkeys ht clientId _ fault]
    constructor
    · intro h
      rw [h.2]
      exact ⟨husable.1, husable.2, .told hstart hbegun h.1⟩
    · rintro ⟨_, _, hfault⟩
      cases hfault with
      | start h => exact absurd h (hstart fault)
      | told _ _ hunshown => exact ⟨hunshown, rfl⟩

theorem Judged.eq_ok (h : Judged a slot t clientId now outcome) {v : Verdict}
    (hv : outcome = .ok v) :
    (v.active = true ↔ t.invalidated = false ∧ (∀ m ∈ t.expiresAt, now < m) ∧ a.Begun slot t now) ∧
      v.notBefore = if v.active then (a.toldClaim slot t "nbf").named?.map .ofUtc else none := by
  cases h with
  | spent hspent =>
    cases hv
    exact ⟨iff_of_false Bool.false_ne_true fun h => hspent ⟨h.1, h.2.1⟩, rfl⟩
  | unread _ _ => cases hv
  | early _ hearly =>
    cases hv
    exact ⟨iff_of_false Bool.false_ne_true fun h => hearly h.2.2, rfl⟩
  | told husable _ hbegun =>
    have hagrees := agrees_of_projected hv
    rw [hagrees.active, hagrees.notBefore]
    exact ⟨iff_of_true rfl ⟨husable.1, husable.2, hbegun⟩, rfl⟩

end Verdict

/-- At an instant of the clock and for a known client, whether there is a verdict and what it says
is decided by the first token of the value and its claims. -/
theorem introspect_faults {a : Authorization} {directory : Option Directory} {value : String}
    (hkeys : a.KeysOnce) (hclient : ∀ d ∈ directory, d.Registered a.registeredClientId)
    {clock : Timestamp} {now : Moment} (hnow : clock.toUtc? = some now)
    (requester : Option String) :
    (∀ fault, (introspect directory clock requester value (some a)).outcome = .error fault ↔
      ∃ slot t, a.HeldFirst value slot t ∧ t.invalidated = false ∧
        (∀ m ∈ t.expiresAt, now < m) ∧ a.ClaimFault slot t now fault) ∧
    ∀ v, (introspect directory clock requester value (some a)).outcome = .ok v →
      ∀ slot t, a.HeldFirst value slot t →
        (v.active = true ↔
          t.invalidated = false ∧ (∀ m ∈ t.expiresAt, now < m) ∧ a.Begun slot t now) ∧
        v.notBefore = if v.active then (a.toldClaim slot t "nbf").named?.map .ofUtc else none := by
  cases hfind : a.find? value with
  | none =>
    have hnone : ∀ slot t, ¬a.HeldFirst value slot t := by
      intro slot t hfirst
      rw [Authorization.find?_eq_some_iff.mpr hfirst] at hfind
      cases hfind
    rw [outcome_introspect_of_not_held _ _ _ hfind]
    refine ⟨fun fault => iff_of_false nofun ?_,
      fun v _ slot t hfirst => absurd hfirst (hnone slot t)⟩
    rintro ⟨slot, t, hfirst, _⟩
    exact hnone slot t hfirst
  | some held =>
    obtain ⟨slot, t⟩ := held
    have hfirst := Authorization.find?_eq_some_iff.mp hfind
    obtain ⟨clientId, hclientId⟩ := Authorization.exists_clientId hclient
    have houtcome : (introspect directory clock requester value (some a)).outcome =
        (Verdict.ofToken a slot t clientId now requester).outcome := by
      rw [outcome_introspect_of_held _ _ _ hfind, Claim.outcome_instantOf hnow, hclientId]
      rfl
    rw [houtcome]
    have hjudged := Verdict.judged_ofToken hkeys hfirst.held clientId now requester
    refine ⟨fun fault => ?_, fun v hv => ?_⟩
    · rw [hjudged.eq_error_iff hkeys hfirst.held, hfirst.exists_iff]
    · rw [hfirst.forall_iff]
      exact hjudged.eq_ok hv

/-! ## Samples -/

/-- The last second of the year 9999 by a clock that is five hours behind UTC. -/
def lastSecond : Timestamp :=
  ⟨⟨315537897599000000, by decide⟩, some ⟨-18000000000, by decide, by decide⟩⟩

/-- A refresh token that lasts from a start that it claims. -/
def startingToken (start : Claim) : Token :=
  { lastingToken with claims := some [("nbf", start)] }

/-- An authorization with that token. -/
def startingAuthorization (start : Claim) : Authorization :=
  { sampleAuthorization with tokens := Slot.table none none none (some (startingToken start)) }

theorem startingAuthorization_heldFirst (start : Claim) :
    (startingAuthorization start).HeldFirst "rt-1" .refresh (startingToken start) :=
  Authorization.find?_eq_some_iff.mp rfl

/-- The last second of the years by a clock behind UTC keeps a token from being judged as a
timestamp, and is ignored as a text. -/
theorem introspect_faults_sample :
    (introspect (some (.ofList [sampleClient])) (.ofUtc ⟨0, by decide⟩) none "rt-1"
        (some (startingAuthorization (.time lastSecond)))).outcome = .error .timeOutOfRange ∧
      ∃ v, (introspect (some (.ofList [sampleClient])) (.ofUtc ⟨0, by decide⟩) none "rt-1"
          (some (startingAuthorization (.text lastSecond.isoText)))).outcome = .ok v ∧
        v.active = true ∧ v.notBefore = none := by
  have hclient : ∀ d ∈ some (Directory.ofList [sampleClient]), d.Registered "c1" := by
    rintro d ⟨⟩
    rfl
  have hnow := Timestamp.toUtc?_ofUtc ⟨0, by decide⟩
  constructor
  · have hkeys : (startingAuthorization (.time lastSecond)).KeysOnce :=
      Authorization.keysOnce_of_all rfl rfl
    exact ((introspect_faults hkeys hclient hnow none).1 _).mpr ⟨_, _,
      startingAuthorization_heldFirst _, rfl, nofun, .start (.outOfRange rfl)⟩
  · have hkeys : (startingAuthorization (.text lastSecond.isoText)).KeysOnce :=
      Authorization.keysOnce_of_all rfl rfl
    obtain ⟨hactive, hstart⟩ := (introspect_faults hkeys hclient hnow none).2 _ rfl _ _
      (startingAuthorization_heldFirst _)
    have hbegun : (startingAuthorization (.text lastSecond.isoText)).Begun .refresh
        (startingToken (.text lastSecond.isoText)) ⟨0, by decide⟩ := nofun
    exact ⟨_, rfl, hactive.mpr ⟨rfl, nofun, hbegun⟩, hstart⟩

/-- It is not so that no claim keeps a token from being judged. -/
theorem introspect_faults_not_none :
    ¬∀ (a : Authorization) (directory : Directory) (clock : Timestamp) (now : Moment)
      (requester : Option String) (value : String), a.WellFormed →
      directory.Registered a.registeredClientId → clock.toUtc? = some now →
      ∃ v, (introspect (some directory) clock requester value (some a)).outcome = .ok v := by
  intro hall
  have hvalid : (startingAuthorization (.time lastSecond)).WellFormed :=
    ⟨Authorization.brokenRule?_eq_none_iff.mp rfl, Authorization.keysOnce_of_all rfl rfl⟩
  obtain ⟨v, hv⟩ := hall (startingAuthorization (.time lastSecond)) (.ofList [sampleClient])
    (.ofUtc ⟨0, by decide⟩) _ none "rt-1" hvalid rfl (Timestamp.toUtc?_ofUtc _)
  cases hv

end GrantKeeper
