/-
Values that several slots hold.

A value is invalidated in the first slot that holds it, and a token in a later slot stays as it is.
While the first stays where it is, the value is never active again; once its slot is emptied the
next one counts, which is then judged as it ever was (`invalidate_copies`).  So the value is out of
use for good only where the later ones were invalidated before, which is so where one slot holds it
(`invalidate_copies_not_all`).
-/
import GrantKeeper.Proofs.Introspection.Invalidation

namespace GrantKeeper

namespace Authorization

variable {a : Authorization} {value : String} {slot : Slot} {t : Token}

/-- A slot holds a token of a value, and a slot before it does too. -/
structure HeldAgain (a : Authorization) (value : String) (slot : Slot) (t : Token) : Prop where
  held : a.tokens slot = some t
  value_eq : t.value = value
  not_first : ¬a.HeldFirst value slot t

/-- At most one slot holds a token of a value. -/
def HeldOnce (a : Authorization) (value : String) : Prop :=
  ∀ slot t slot' t', a.tokens slot = some t → t.value = value →
    a.tokens slot' = some t' → t'.value = value → slot = slot'

theorem HeldOnce.not_heldAgain (h : a.HeldOnce value) : ¬a.HeldAgain value slot t := by
  rintro ⟨ht, hvalue, hnot⟩
  obtain ⟨first, u, hfind⟩ := exists_find? ht hvalue
  obtain ⟨hu, husame⟩ := find?_eq_some hfind
  obtain rfl := h slot t first u ht hvalue hu husame
  rw [ht] at hu
  cases hu
  exact hnot (find?_eq_some_iff.mp hfind)

/-! ## Slots -/

theorem HeldFirst.of_slot {u : Token} (h : a.HeldFirst value slot u)
    (ht : a.tokens slot = some t) : a.HeldFirst value slot t := by
  rw [h.held] at ht
  cases ht
  exact h

/-- Only the first slot of the value is changed. -/
theorem tokens_invalidate_of_not_first (h : ∀ t, ¬a.HeldFirst value slot t) :
    (a.invalidate value).tokens slot = a.tokens slot := by
  rcases invalidate_cases a value with ⟨heq, _⟩ | ⟨first, t, hfind, _, heq⟩
  · rw [heq]
  · have hslot : slot ≠ first := by
      rintro rfl
      exact h t (find?_eq_some_iff.mp hfind)
    rw [heq, tokens_withToken_of_ne _ _ hslot]

/-- A token of the value is invalidated afterwards unless it is one that is held again and was not
invalidated before. -/
theorem invalidated_invalidate_iff :
    (∀ slot t, (a.invalidate value).tokens slot = some t → t.value = value →
      t.invalidated = true) ↔ ∀ slot t, a.HeldAgain value slot t → t.invalidated = true := by
  constructor
  · intro h slot t hagain
    refine h slot t ?_ hagain.value_eq
    rw [tokens_invalidate_of_not_first fun u hu => hagain.not_first (hu.of_slot hagain.held),
      hagain.held]
  · intro h slot t ht hvalue
    by_cases hfirst : ∃ u, a.HeldFirst value slot u
    · obtain ⟨u, hu⟩ := hfirst
      rw [hu.invalidate.held] at ht
      cases ht
      rfl
    · rw [tokens_invalidate_of_not_first (not_exists.mp hfirst)] at ht
      exact h slot t ⟨ht, hvalue, fun hnow => hfirst ⟨t, hnow⟩⟩

/-! ## Emptied slots -/

theorem withToken_withToken (a : Authorization) (slot : Slot) (t t' : Option Token) :
    (a.withToken slot t).withToken slot t' = a.withToken slot t' := by
  have htokens : ((a.withToken slot t).withToken slot t').tokens = (a.withToken slot t').tokens := by
    funext s
    by_cases hs : s = slot
    · rw [hs, tokens_withToken, tokens_withToken]
    · rw [tokens_withToken_of_ne _ _ hs, tokens_withToken_of_ne _ _ hs,
        tokens_withToken_of_ne _ _ hs]
  show { a with tokens := ((a.withToken slot t).withToken slot t').tokens } = _
  rw [htokens]
  rfl

/-- With the first slot emptied nothing is left of the invalidation. -/
theorem HeldFirst.withToken_invalidate (h : a.HeldFirst value slot t) (u : Option Token) :
    (a.invalidate value).withToken slot u = a.withToken slot u := by
  rw [h.invalidate_eq, withToken_withToken]

/-- The first token of a value stays the first when another slot is emptied. -/
theorem HeldFirst.withToken_none (h : a.HeldFirst value slot t) {other : Slot}
    (hother : slot ≠ other) : (a.withToken other none).HeldFirst value slot t := by
  obtain ⟨hheld, hvalue, before, after, hall, hfirst⟩ := h
  refine ⟨?_, hvalue, before, after, hall, fun earlier hmem u hu => ?_⟩
  · rw [tokens_withToken_of_ne _ _ hother, hheld]
  · by_cases hs : earlier = other
    · rw [hs, tokens_withToken] at hu
      cases hu
    · rw [tokens_withToken_of_ne _ _ hs] at hu
      exact hfirst earlier hmem u hu

/-- The first token of an invalidated value, in whatever slot is not emptied, is invalidated, unless
the first slot is the emptied one and the next token of the value was not. -/
theorem invalidated_of_heldFirst_withToken {emptied : Slot}
    (hnext : ∀ t, a.HeldFirst value emptied t →
      ∀ next u, (a.withToken emptied none).HeldFirst value next u → u.invalidated = true)
    (h : ((a.invalidate value).withToken emptied none).HeldFirst value slot t) :
    t.invalidated = true := by
  cases hfind : a.find? value with
  | none =>
    rw [invalidate_of_find?_eq_none hfind] at h
    rw [find?_eq_none_iff] at hfind
    have hheld := h.held
    by_cases hs : slot = emptied
    · rw [hs, tokens_withToken] at hheld
      cases hheld
    · rw [tokens_withToken_of_ne _ _ hs] at hheld
      exact absurd h.value_eq (hfind slot t hheld)
  | some found =>
    obtain ⟨first, u⟩ := found
    have hfirst := find?_eq_some_iff.mp hfind
    -- What is found is the invalidated token itself, or, where that is gone, the one after it.
    by_cases hs : first = emptied
    · subst hs
      rw [hfirst.withToken_invalidate] at h
      exact hnext u hfirst slot t h
    · obtain ⟨_, rfl⟩ := h.unique (hfirst.invalidate.withToken_none hs)
      rfl

end Authorization

/-! ## Verdicts -/

/-- Where the first token of a value is invalidated, no verdict about it is active, whatever a clock
shows. -/
theorem not_active_of_invalidated {a : Authorization} {value : String}
    (h : ∀ slot t, a.HeldFirst value slot t → t.invalidated = true) {directory : Option Directory}
    {clock : Timestamp} {requester : Option String} {v : Verdict}
    (hv : (introspect directory clock requester value (some a)).outcome = .ok v) :
    v.active = false := by
  cases hfind : a.find? value with
  | none =>
    rw [outcome_introspect_of_not_held _ _ _ hfind] at hv
    cases hv
    rfl
  | some found =>
    obtain ⟨slot, t⟩ := found
    rw [outcome_introspect_of_held _ _ _ hfind] at hv
    obtain ⟨now, _, hv⟩ := Except.bind_eq_ok hv
    obtain ⟨clientId, _, hv⟩ := Except.bind_eq_ok hv
    rw [Verdict.outcome_ofToken, h slot t (Authorization.find?_eq_some_iff.mp hfind)] at hv
    cases hv
    rfl

/-- There is such a verdict at every instant, for a client that is known. -/
theorem exists_introspect_of_invalidated {a : Authorization} {value : String}
    (h : ∀ slot t, a.HeldFirst value slot t → t.invalidated = true) {directory : Option Directory}
    (hclient : ∀ d ∈ directory, d.Registered a.registeredClientId) {clock : Timestamp}
    {now : Moment} (hnow : clock.toUtc? = some now) (requester : Option String) :
    ∃ v, (introspect directory clock requester value (some a)).outcome = .ok v ∧
      v.active = false := by
  cases hfind : a.find? value with
  | none => exact ⟨_, outcome_introspect_of_not_held _ _ _ hfind, rfl⟩
  | some found =>
    obtain ⟨slot, t⟩ := found
    obtain ⟨clientId, hclientId⟩ := Authorization.exists_clientId hclient
    refine ⟨.basic false clientId t, ?_, rfl⟩
    rw [outcome_introspect_of_held _ _ _ hfind, Claim.outcome_instantOf hnow, hclientId]
    show (Verdict.ofToken a slot t clientId now requester).outcome = _
    rw [Verdict.outcome_ofToken, h slot t (Authorization.find?_eq_some_iff.mp hfind)]
    rfl

/-! ## Copies -/

/-- Invalidating a value invalidates the first token of it and changes no other slot.  So every
token of the value is invalidated exactly where each that is held again was before, and that is so
where one slot holds it.  With a slot emptied the value is not active any more, and at every instant
it is inactive for a known client, unless that slot was the first of the value and the next token of
it was not invalidated; with the first slot emptied the authorization is the one that it would be
without the invalidation. -/
theorem invalidate_copies (a : Authorization) (value : String) :
    (∀ slot t, a.HeldFirst value slot t →
      (a.invalidate value).tokens slot = some { t with invalidated := true } ∧
      (a.invalidate value).withToken slot none = a.withToken slot none) ∧
    (∀ slot, (∀ t, ¬a.HeldFirst value slot t) →
      (a.invalidate value).tokens slot = a.tokens slot) ∧
    ((∀ slot t, (a.invalidate value).tokens slot = some t → t.value = value →
        t.invalidated = true) ↔
      ∀ slot t, a.HeldAgain value slot t → t.invalidated = true) ∧
    (a.HeldOnce value → ∀ slot t, (a.invalidate value).tokens slot = some t → t.value = value →
      t.invalidated = true) ∧
    ∀ emptied,
      (∀ t, a.HeldFirst value emptied t → ∀ next u,
        (a.withToken emptied none).HeldFirst value next u → u.invalidated = true) →
      ∀ directory clock requester,
        (∀ v, (introspect directory clock requester value
            (some ((a.invalidate value).withToken emptied none))).outcome = .ok v →
          v.active = false) ∧
        ((∀ d ∈ directory, d.Registered a.registeredClientId) →
          ∀ now, clock.toUtc? = some now →
          ∃ v, (introspect directory clock requester value
              (some ((a.invalidate value).withToken emptied none))).outcome = .ok v ∧
            v.active = false) := by
  refine ⟨fun slot t h => ⟨h.invalidate.held, h.withToken_invalidate none⟩,
    fun slot h => Authorization.tokens_invalidate_of_not_first h,
    Authorization.invalidated_invalidate_iff, fun hone => ?_,
    fun emptied hnext directory clock requester => ?_⟩
  · exact Authorization.invalidated_invalidate_iff.mpr fun slot t h => absurd h hone.not_heldAgain
  · have hinvalidated : ∀ slot t,
        ((a.invalidate value).withToken emptied none).HeldFirst value slot t →
          t.invalidated = true :=
      fun slot t h => Authorization.invalidated_of_heldFirst_withToken hnext h
    refine ⟨fun v hv => not_active_of_invalidated hinvalidated hv, fun hclient now hnow => ?_⟩
    refine exists_introspect_of_invalidated hinvalidated ?_ hnow requester
    show ∀ d ∈ directory, d.Registered (a.invalidate value).registeredClientId
    rwa [a.registeredClientId_invalidate]

/-! ## Samples -/

/-- The sample with a refresh token that has the value of its access token. -/
def copiedAuthorization : Authorization :=
  { sampleAuthorization with
    tokens := Slot.table none (some sampleToken) none
      (some { sampleRefreshToken with
        value := sampleToken.value
        tokenType := none
        value_ne := sampleToken.value_ne }) }

theorem copiedAuthorization_wellFormed : copiedAuthorization.WellFormed where
  valid := Authorization.brokenRule?_eq_none_iff.mp rfl
  keysOnce := Authorization.keysOnce_of_all rfl rfl

/-- Invalidated, the value that two slots hold is inactive for as long as the first is not
emptied. -/
theorem invalidate_copies_sample :
    ((copiedAuthorization.invalidate "at-1").tokens .access =
        some { sampleToken with invalidated := true }) ∧
      ∃ v, (introspect (some (.ofList [sampleClient])) (.ofUtc ⟨0, by decide⟩) none "at-1"
          (some ((copiedAuthorization.invalidate "at-1").withToken .refresh none))).outcome =
            .ok v ∧
        v.active = false := by
  have hfirst : copiedAuthorization.HeldFirst "at-1" .access sampleToken :=
    Authorization.find?_eq_some_iff.mp rfl
  have hclient : ∀ d ∈ some (Directory.ofList [sampleClient]), d.Registered "c1" := by
    rintro d ⟨⟩
    rfl
  have hnext : ∀ t, copiedAuthorization.HeldFirst "at-1" .refresh t → ∀ next u,
      (copiedAuthorization.withToken .refresh none).HeldFirst "at-1" next u →
        u.invalidated = true := by
    intro t hrefresh
    cases (hfirst.unique hrefresh).1
  obtain ⟨hchanged, _, _, _, hjudged⟩ := invalidate_copies copiedAuthorization "at-1"
  exact ⟨(hchanged .access sampleToken hfirst).1,
    (hjudged .refresh hnext _ _ none).2 hclient _ (Timestamp.toUtc?_ofUtc _)⟩

/-- It is not so that every token of the value is invalidated, nor that the value stays inactive
whatever slot is emptied. -/
theorem invalidate_copies_not_all :
    ¬(∀ (a : Authorization) (value : String), a.WellFormed →
        ∀ slot t, (a.invalidate value).tokens slot = some t → t.value = value →
          t.invalidated = true) ∧
      ¬∀ (a : Authorization) (value : String) (emptied : Slot) (directory : Option Directory)
        (clock : Timestamp) (requester : Option String), a.WellFormed →
        (∀ d ∈ directory, d.Registered a.registeredClientId) →
        ∀ v, (introspect directory clock requester value
            (some ((a.invalidate value).withToken emptied none))).outcome = .ok v →
          v.active = false := by
  constructor
  · intro hall
    have hflag := hall copiedAuthorization "at-1" copiedAuthorization_wellFormed .refresh _ rfl rfl
    cases hflag
  · intro hall
    have hclient : ∀ d ∈ some (Directory.ofList [sampleClient]), d.Registered "c1" := by
      rintro d ⟨⟩
      rfl
    have hactive := hall copiedAuthorization "at-1" .access (some (.ofList [sampleClient]))
      (.ofUtc ⟨0, by decide⟩) none copiedAuthorization_wellFormed hclient _ rfl
    cases hactive

end GrantKeeper
