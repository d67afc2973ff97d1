/-
The safety of introspection: an active verdict is justified by what was saved last.

The verdict comes from a search by the hint or, where that finds nothing, from one without it.
Either way it is about one authorization that is held at that moment, in its normal form
(`introspect_active`), and no row but that of the last saving can have led to it.
-/
import GrantKeeper.Proofs.Introspection.Active
import GrantKeeper.Proofs.Service.Refinement

namespace GrantKeeper

open Service

/-- What makes an authorization justify that a text is called an active token at a moment. -/
structure Authorization.Justifies (a : Authorization) (directory : Directory) (value : String)
    (now : Moment) : Prop where
  /-- The text is that of the state or the value of a token other than the id token. -/
  owns : a.lookupText "state" = some value ∨
    ∃ slot t, slot ≠ .id ∧ a.tokens slot = some t ∧ t.value = value
  /-- The first token that holds the text is usable: not invalidated, not expired, and valid already
  by the claim that counts for it, as that is read back from the store. -/
  usable : ∃ slot t, a.HeldFirst value slot t ∧ t.invalidated = false ∧
    (∀ expires ∈ t.expiresAt, now < expires) ∧
    ∀ m ∈ (a.toldClaim slot t "nbf").normal.named?, m ≤ now
  registered : directory.Registered a.registeredClientId

namespace Store

/-- A verdict is about what a search found, by the hint or without one. -/
theorem introspect_eq_ok {s : Store} {directory : Directory} {clock : Timestamp} {value : String}
    {requester hint : Option String} {verdict : Verdict}
    (h : (s.introspect directory clock value requester hint).outcome = .ok verdict) :
    ∃ searched found, (s.findByToken directory value searched).outcome = .ok found ∧
      (GrantKeeper.introspect (some directory) clock requester value found).outcome =
        .ok verdict := by
  obtain ⟨first, hfirst, h⟩ := Traced.bind_eq_ok_iff.mp h
  dsimp only at h
  split at h
  · obtain ⟨found, hfound, h⟩ := Traced.bind_eq_ok_iff.mp h
    exact ⟨none, found, hfound, h⟩
  · rw [pure_bind] at h
    exact ⟨hint, first, hfirst, h⟩

theorem outcome_introspect (s : Store) (directory : Directory) (clock : Timestamp) (value : String)
    (requester hint : Option String) :
    (s.introspect directory clock value requester hint).outcome =
      (s.findByToken directory value hint).outcome >>= fun found =>
        if found.isNone && hint.isSome then
          (s.findByToken directory value none).outcome >>= fun found =>
            (GrantKeeper.introspect (some directory) clock requester value found).outcome
        else (GrantKeeper.introspect (some directory) clock requester value found).outcome := by
  rw [introspect, Traced.outcome_bind]
  congr 1
  funext found
  dsimp only
  split
  · rw [Traced.outcome_bind]
  · rw [pure_bind]

variable {s : Store} {held : Holdings}

/-- A text with one owner is judged by what is held under that id, whatever the hint: one that leads
nowhere does not hide the token. -/
theorem Represents.introspect_of_only_owner (h : s.Represents held) {directory : Directory}
    {value id : String} {a : Authorization} (hvalue : Text.isBlankText value = false)
    (howners : held.owners value none = {id}) (ha : held id = some a) (hwell : a.WellFormed)
    (hclient : directory.Registered a.registeredClientId) (clock : Timestamp)
    (requester hint : Option String) :
    (s.introspect directory clock value requester hint).outcome =
      (GrantKeeper.introspect (some directory) clock requester value (some a.normal)).outcome := by
  have hfound : ∀ searched, held.owners value searched = ∅ ∧
        (s.findByToken directory value searched).outcome = .ok none ∨
      (s.findByToken directory value searched).outcome = .ok (some a.normal) := by
    intro searched
    have hsubset : held.owners value searched ⊆ {id} := howners ▸ held.owners_subset value searched
    rcases h.findByToken_cases directory hvalue searched with
      hempty | ⟨other, b, row, honly, hb, hwritten, hload⟩ | ⟨i, j, hne, hi, hj, _⟩
    · exact Or.inl hempty
    · right
      have hsame : other = id := hsubset (honly ▸ rfl)
      rw [hsame, ha] at hb
      cases hb
      rw [hload, Row.load_of_registered hwritten hwell hclient]
      rfl
    · exact absurd ((hsubset hi).trans (hsubset hj).symm) hne
  have hunhinted : (s.findByToken directory value none).outcome = .ok (some a.normal) := by
    rcases hfound none with ⟨hempty, _⟩ | hsome
    · exact absurd (howners.symm.trans hempty) (Set.singleton_ne_empty id)
    · exact hsome
  rw [outcome_introspect]
  rcases hfound hint with ⟨_, hnone⟩ | hsome
  · cases hint with
    | none =>
      rw [hunhinted] at hnone
      cases hnone
    | some hint =>
      rw [hnone, hunhinted]
      rfl
  · rw [hsome]
    rfl

/-- An active verdict is that about an authorization which is held and justifies it. -/
theorem Represents.introspect_active (h : s.Represents held)
    (hkeys : ∀ id a, held id = some a → a.KeysOnce) {directory : Directory} {clock : Timestamp}
    {value : String} {requester hint : Option String} {verdict : Verdict}
    (hverdict : (s.introspect directory clock value requester hint).outcome = .ok verdict)
    (hactive : verdict.active = true) :
    ∃ id a now, held id = some a ∧ clock.toUtc? = some now ∧ a.Justifies directory value now ∧
      (GrantKeeper.introspect (some directory) clock requester value (some a.normal)).outcome =
        .ok verdict := by
  obtain ⟨searched, found, hfound, hdecided⟩ := introspect_eq_ok hverdict
  obtain ⟨b, slot, n, now, rfl, hfind, hclock, hclient, hflag, hexpires, hbegun⟩ :=
    GrantKeeper.introspect_active hdecided hactive
  obtain ⟨id, a, ha, howners, rfl, _⟩ := h.findByToken_eq_some hkeys hfound
  obtain ⟨c, hc, name, _, hname⟩ : id ∈ held.owners value searched := howners ▸ rfl
  rw [ha] at hc
  cases hc
  rw [Authorization.find?_normal] at hfind
  obtain ⟨⟨slot', t⟩, ht, hpair⟩ := Option.map_eq_some_iff.mp hfind
  cases hpair
  have hfirst := Authorization.find?_eq_some_iff.mp ht
  rw [Authorization.told_effectiveClaims_normal (hkeys id a ha) hfirst.held] at hbegun
  exact ⟨id, a, now, ha, hclock, ⟨Authorization.lookupText_eq_some hname,
    ⟨_, t, hfirst, hflag, hexpires, hbegun⟩, hclient⟩, hdecided⟩

end Store

/-- After any run from nothing an active verdict is justified by an authorization that was saved
last under its id and not removed since, and it is the verdict about that authorization. -/
theorem introspect_run_active {requests : List Request}
    (hsaved : ∀ a, .save (some a) ∈ requests → a.KeysOnce) {clock : Timestamp} {value : String}
    {requester hint : Option String} {verdict : Verdict}
    (hverdict : ((empty.run requests).store.introspect (empty.run requests).directory clock value
      requester hint).outcome = .ok verdict)
    (hactive : verdict.active = true) :
    ∃ id a now, lastSaved requests id = some a ∧ clock.toUtc? = some now ∧
      a.Justifies (empty.run requests).directory value now ∧
      (introspect (some (empty.run requests).directory) clock requester value
        (some a.normal)).outcome = .ok verdict :=
  (represents_run requests).introspect_active (lastSaved_forall hsaved) hverdict hactive

/-! ## A run -/

/-- A client is registered and its authorization saved. -/
def issuedRequests : List Request :=
  [.register sampleClient, .save (some sampleAuthorization)]

theorem issuedRequests_wellFormed : ∀ a, .save (some a) ∈ issuedRequests → a.WellFormed :=
  forall_saved sampleClient sampleAuthorization_wellFormed

theorem owners_issued : (lastSaved issuedRequests).owners "at-1" none = {"a1"} := by
  have honly : ∀ other, other ≠ "a1" → lastSaved issuedRequests other = none := fun other h =>
    if_neg h
  have hname : "access_token" ∈ lookupNames := by decide
  exact Holdings.owners_eq_singleton rfl honly hname rfl

/-- Half a second after it was issued the access token is active, also where the hint is wrong. -/
theorem introspect_run_active_sample :
    ∃ verdict : Verdict,
      ((empty.run issuedRequests).store.introspect (empty.run issuedRequests).directory
        (.naive ⟨500000, by decide⟩) "at-1" none (some "refresh_token")).outcome = .ok verdict ∧
      verdict.active = true ∧
      ∃ id a now, lastSaved issuedRequests id = some a ∧
        Timestamp.toUtc? (.naive ⟨500000, by decide⟩) = some now ∧
        a.Justifies (empty.run issuedRequests).directory "at-1" now ∧
        (introspect (some (empty.run issuedRequests).directory) (.naive ⟨500000, by decide⟩) none
          "at-1" (some a.normal)).outcome = .ok verdict := by
  have hclient : (empty.run issuedRequests).directory.Registered "c1" := rfl
  have hverdict := (represents_run issuedRequests).introspect_of_only_owner (by decide)
    owners_issued rfl sampleAuthorization_wellFormed hclient (.naive ⟨500000, by decide⟩) none
    (some "refresh_token")
  have hkeys : ∀ a, .save (some a) ∈ issuedRequests → a.KeysOnce :=
    fun a ha => (issuedRequests_wellFormed a ha).keysOnce
  obtain ⟨verdict, hjudged, hactive⟩ : ∃ verdict : Verdict,
      (introspect (some (empty.run issuedRequests).directory) (.naive ⟨500000, by decide⟩) none
        "at-1" (some sampleAuthorization.normal)).outcome = .ok verdict ∧
      verdict.active = true := ⟨_, rfl, rfl⟩
  rw [hjudged] at hverdict
  exact ⟨verdict, hverdict, hactive, introspect_run_active hkeys hverdict hactive⟩

end GrantKeeper
