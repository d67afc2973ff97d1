/-
What an active verdict says of the authorization it is about.

The checks come in order and each of them ends the decision when it fails, so an active verdict has
passed them all (`introspect_active`).
-/
import GrantKeeper.Introspection.Decision
import GrantKeeper.Proofs.Claim.Reading
import GrantKeeper.Proofs.Service.History

namespace GrantKeeper

namespace Authorization

/-! ## The first token of a value -/

/-- A slot holds a token of a value, and no slot before it does. -/
structure HeldFirst (a : Authorization) (value : String) (slot : Slot) (t : Token) : Prop where
  held : a.tokens slot = some t
  value_eq : t.value = value
  first : ∃ before after, Slot.all = before ++ slot :: after ∧
    ∀ earlier ∈ before, ∀ u, a.tokens earlier = some u → u.value ≠ value

variable {a : Authorization} {value : String} {slot : Slot} {t : Token}

theorem find?_eq_some_iff : a.find? value = some (slot, t) ↔ a.HeldFirst value slot t := by
  unfold find? held
  rw [List.find?_filterMap, Option.bind_eq_some_iff]
  constructor
  · rintro ⟨s, hs, hheld⟩
    obtain ⟨u, hu, hpair⟩ := Option.map_eq_some_iff.mp hheld
    cases hpair
    obtain ⟨hvalue, before, after, hall, hfirst⟩ := List.find?_eq_some_iff_append.mp hs
    refine ⟨hu, by simpa [hu] using hvalue, before, after, hall, fun s hs u hu => ?_⟩
    simpa [hu] using hfirst s hs
  · intro ⟨hheld, hvalue, before, after, hall, hfirst⟩
    refine ⟨slot, List.find?_eq_some_iff_append.mpr ⟨?_, before, after, hall, ?_⟩, ?_⟩
    · simp [hheld, hvalue]
    · intro s hs
      cases hs' : a.tokens s with
      | none => rfl
      | some u => simpa using hfirst s hs u hs'
    · rw [hheld]
      rfl

theorem HeldFirst.unique {slot' : Slot} {t' : Token} (h : a.HeldFirst value slot t)
    (h' : a.HeldFirst value slot' t') : slot = slot' ∧ t = t' := by
  have hfind := find?_eq_some_iff.mpr h
  rw [find?_eq_some_iff.mpr h'] at hfind
  cases hfind
  exact ⟨rfl, rfl⟩

/-- What holds of the first token of a value in whatever slot holds of the one. -/
theorem HeldFirst.forall_iff {P : Slot → Token → Prop} (h : a.HeldFirst value slot t) :
    (∀ slot' t', a.HeldFirst value slot' t' → P slot' t') ↔ P slot t := by
  refine ⟨fun hall => hall slot t h, fun hone slot' t' h' => ?_⟩
  obtain ⟨rfl, rfl⟩ := h.unique h'
  exact hone

theorem HeldFirst.exists_iff {P : Slot → Token → Prop} (h : a.HeldFirst value slot t) :
    (∃ slot' t', a.HeldFirst value slot' t' ∧ P slot' t') ↔ P slot t := by
  refine ⟨?_, fun hone => ⟨slot, t, h, hone⟩⟩
  rintro ⟨slot', t', h', hone⟩
  obtain ⟨rfl, rfl⟩ := h.unique h'
  exact hone

/-! ## Claims that count -/

/-- The claim that counts for a token in a slot: its own, or where it has none of the key that of
the id token. -/
def layeredClaim (a : Authorization) (slot : Slot) (t : Token) (key : String) : Option Claim :=
  (t.claims.bind (·.get? key)).or
    (if slot = .id then none
      else (a.tokens .id).bind fun idToken => idToken.claims.bind (·.get? key))

/-- The value that a token is judged by under a key, null where there is none. -/
def toldClaim (a : Authorization) (slot : Slot) (t : Token) (key : String) : Claim :=
  (a.layeredClaim slot t key).getD .null

theorem get?_getD (claims : Option Claims) (key : String) :
    Claims.get? (claims.getD []) key = claims.bind (·.get? key) := by
  cases claims <;> rfl

/-- Laying claims over those of the id token lets the upper ones count. -/
theorem get?_effectiveClaims {a : Authorization} {slot : Slot} {t : Token} (h : t.keysOnce = true)
    (key : String) : (a.effectiveClaims slot t).get? key = a.layeredClaim slot t key := by
  have hnodup : ((t.claims.getD []).map (·.1)).Nodup := by
    cases hclaims : t.claims with
    | none => exact List.nodup_nil
    | some claims =>
      exact (Claims.keysOnce_iff.mp ((Token.keysOnce_iff.mp h).2 claims hclaims)).1
  unfold effectiveClaims layeredClaim
  dsimp only
  rw [Claims.get?_overlay _ _ _ hnodup, get?_getD]
  by_cases hs : slot = .id
  · rw [if_pos hs, if_pos hs]
    rfl
  · rw [if_neg hs, if_neg hs, get?_getD, Option.bind_assoc]

/-- The claim that counts is stored and loaded like any other. -/
theorem layeredClaim_normal (a : Authorization) (slot : Slot) (t : Token) (key : String) :
    a.normal.layeredClaim slot (t.normalIn slot) key =
      (a.layeredClaim slot t key).map Claim.normal := by
  have hclaims : ∀ claims : Option Claims, (claims.map Claims.normal).bind (·.get? key) =
      (claims.bind (·.get? key)).map Claim.normal := by
    intro claims
    cases claims with
    | none => rfl
    | some claims => exact Claims.get?_normal claims key
  unfold layeredClaim
  rw [Option.map_or]
  congr 1
  · exact hclaims t.claims
  · by_cases hs : slot = .id
    · rw [if_pos hs, if_pos hs]
      rfl
    · rw [if_neg hs, if_neg hs]
      show ((a.tokens .id).map (·.normalIn .id)).bind _ = _
      cases a.tokens .id with
      | none => rfl
      | some idToken => exact hclaims idToken.claims

theorem toldClaim_normal (a : Authorization) (slot : Slot) (t : Token) (key : String) :
    a.normal.toldClaim slot (t.normalIn slot) key = (a.toldClaim slot t key).normal := by
  unfold toldClaim
  rw [layeredClaim_normal]
  cases a.layeredClaim slot t key <;> rfl

theorem told_effectiveClaims (hkeys : a.KeysOnce) (ht : a.tokens slot = some t) (key : String) :
    ((a.effectiveClaims slot t).get? key).getD .null = a.toldClaim slot t key := by
  rw [get?_effectiveClaims (hkeys.tokens slot t ht)]
  rfl

theorem told_effectiveClaims_normal (hkeys : a.KeysOnce) (ht : a.tokens slot = some t)
    (key : String) :
    ((a.normal.effectiveClaims slot (t.normalIn slot)).get? key).getD .null =
      (a.toldClaim slot t key).normal := by
  rw [get?_effectiveClaims (Token.keysOnce_normalIn (hkeys.tokens slot t ht) slot)]
  exact a.toldClaim_normal slot t key

theorem find?_normal (a : Authorization) (value : String) :
    a.normal.find? value =
      (a.find? value).map fun found => (found.1, found.2.normalIn found.1) := by
  have hheld : a.normal.held = a.held.map fun found => (found.1, found.2.normalIn found.1) := by
    unfold held
    rw [List.map_filterMap]
    congr 1
    funext slot
    rw [tokens_normal]
    cases a.tokens slot <;> rfl
  rw [find?, hheld, List.find?_map]
  rfl

end Authorization

/-! ## Verdicts -/

namespace Verdict

/-- The checks of a token: its flag and its end, then its beginning, then what its claims say. -/
theorem outcome_ofToken (a : Authorization) (slot : Slot) (t : Token) (clientId : String)
    (now : Moment) (requester : Option String) :
    (ofToken a slot t clientId now requester).outcome =
      if t.invalidated || t.expiresAt.any (· ≤ now) then .ok (basic false clientId t)
      else (((a.effectiveClaims slot t).get? "nbf").getD .null).instant.outcome >>=
        fun notBefore =>
          if notBefore.any (now < ·) then .ok (basic false clientId t)
          else projected clientId slot t (a.effectiveClaims slot t) notBefore := by
  unfold ofToken
  cases t.invalidated with
  | true => rfl
  | false =>
    rw [Bool.false_or, if_neg Bool.false_ne_true]
    split
    · rfl
    · rw [Traced.outcome_bind]
      congr 1
      funext notBefore
      split
      · rfl
      · rw [Traced.outcome_bind, Traced.outcome_ofExcept]
        cases projected clientId slot t (a.effectiveClaims slot t) notBefore <;> rfl

/-- A token with an active verdict is not invalidated, has not expired and is valid already, and the
verdict is what is projected of it. -/
theorem ofToken_active {a : Authorization} {slot : Slot} {t : Token} {clientId : String}
    {now : Moment} {requester : Option String} {verdict : Verdict}
    (h : (ofToken a slot t clientId now requester).outcome = .ok verdict)
    (hactive : verdict.active = true) :
    t.invalidated = false ∧ (∀ expires ∈ t.expiresAt, now < expires) ∧
      (∀ m ∈ (((a.effectiveClaims slot t).get? "nbf").getD .null).named?, m ≤ now) ∧
      projected clientId slot t (a.effectiveClaims slot t)
        (((a.effectiveClaims slot t).get? "nbf").getD .null).named? = .ok verdict := by
  have hbasic : Except.ok (basic false clientId t) ≠ (.ok verdict : Except Fault Verdict) := by
    intro heq
    cases heq
    cases hactive
  rw [outcome_ofToken] at h
  split at h
  · exact absurd h hbasic
  · next husable =>
    obtain ⟨notBefore, hinstant, h⟩ := Except.bind_eq_ok h
    rw [Claim.eq_named?_of_instant hinstant] at h
    split at h
    · exact absurd h hbasic
    · next hearly =>
      rw [Bool.or_eq_true, not_or, Bool.not_eq_true] at husable
      obtain ⟨hinvalidated, hexpired⟩ := husable
      refine ⟨hinvalidated, fun expires hmem => ?_, fun m hmem => ?_, h⟩
      · rw [Option.mem_def] at hmem
        rw [hmem, Option.any_some, decide_eq_true_iff] at hexpired
        exact Nat.lt_of_not_le hexpired
      · rw [Option.mem_def] at hmem
        rw [hmem, Option.any_some, decide_eq_true_iff] at hearly
        exact Nat.le_of_not_lt hearly

end Verdict

theorem Claim.instantOf_eq_ok {clock : Timestamp} {now : Moment}
    (h : (Claim.instantOf clock).outcome = .ok now) : clock.toUtc? = some now := by
  unfold Claim.instantOf at h
  cases hutc : clock.toUtc? with
  | none =>
    rw [hutc] at h
    cases h
  | some m =>
    rw [hutc] at h
    cases h
    rfl

theorem Claim.outcome_instantOf {clock : Timestamp} {now : Moment} (h : clock.toUtc? = some now) :
    (instantOf clock).outcome = .ok now := by
  rw [instantOf, h]
  rfl

theorem outcome_introspect_of_not_held (directory : Option Directory) (clock : Timestamp)
    (requester : Option String) {value : String} {a : Authorization} (h : a.find? value = none) :
    (introspect directory clock requester value (some a)).outcome = .ok .unknown := by
  rw [introspect, h]
  rfl

theorem outcome_introspect_of_held (directory : Option Directory) (clock : Timestamp)
    (requester : Option String) {value : String} {a : Authorization} {slot : Slot} {t : Token}
    (h : a.find? value = some (slot, t)) :
    (introspect directory clock requester value (some a)).outcome =
      (Claim.instantOf clock).outcome >>= fun now =>
        a.clientId directory >>= fun clientId =>
          (Verdict.ofToken a slot t clientId now requester).outcome := by
  rw [introspect, h]
  dsimp only
  rw [Traced.outcome_bind]
  congr 1
  funext now
  rw [Traced.outcome_bind, Traced.outcome_ofExcept]

/-- An active verdict is about an authorization that holds the value, whose client is registered,
and whose first token of the value has passed every check. -/
theorem introspect_active {directory : Directory} {clock : Timestamp} {requester : Option String}
    {value : String} {found : Option Authorization} {verdict : Verdict}
    (h : (introspect (some directory) clock requester value found).outcome = .ok verdict)
    (hactive : verdict.active = true) :
    ∃ a slot t now, found = some a ∧ a.find? value = some (slot, t) ∧
      clock.toUtc? = some now ∧ directory.Registered a.registeredClientId ∧
      t.invalidated = false ∧ (∀ expires ∈ t.expiresAt, now < expires) ∧
      ∀ m ∈ (((a.effectiveClaims slot t).get? "nbf").getD .null).named?, m ≤ now := by
  have hunknown : Except.ok Verdict.unknown ≠ (.ok verdict : Except Fault Verdict) := by
    intro heq
    cases heq
    cases hactive
  cases found with
  | none => exact absurd h hunknown
  | some a =>
    cases hfind : a.find? value with
    | none =>
      rw [outcome_introspect_of_not_held _ clock requester hfind] at h
      exact absurd h hunknown
    | some held =>
      obtain ⟨slot, t⟩ := held
      rw [outcome_introspect_of_held _ clock requester hfind] at h
      obtain ⟨now, hnow, h⟩ := Except.bind_eq_ok h
      obtain ⟨clientId, hclient, h⟩ := Except.bind_eq_ok h
      obtain ⟨hinvalidated, hexpires, hbegun, _⟩ := Verdict.ofToken_active h hactive
      refine ⟨a, slot, t, now, rfl, hfind, Claim.instantOf_eq_ok hnow, ?_, hinvalidated, hexpires,
        hbegun⟩
      rw [Authorization.clientId] at hclient
      split at hclient
      · next client hfound =>
        rw [Directory.Registered, hfound]
        rfl
      · cases hclient

end GrantKeeper
