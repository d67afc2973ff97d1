/-
Invalidating a value, as an operation on authorizations.

It sets the flag of the first token of the value and nothing else, and no search looks at flags.  So
every other value is found and judged as before (`introspect_invalidate_of_ne`), and the order in
which values are invalidated does not matter (`invalidate_comm`).
-/
import GrantKeeper.Proofs.Introspection.Window

namespace GrantKeeper

namespace Authorization

variable {a : Authorization} {value other : String} {slot : Slot} {t : Token}

/-! ## Tokens in slots -/

theorem withToken_eq_self (h : a.tokens slot = some t) : a.withToken slot (some t) = a := by
  have htokens : (a.withToken slot (some t)).tokens = a.tokens := by
    funext s
    by_cases hs : s = slot
    · rw [hs, tokens_withToken, h]
    · exact a.tokens_withToken_of_ne _ hs
  show { a with tokens := (a.withToken slot (some t)).tokens } = a
  rw [htokens]

theorem withToken_comm (a : Authorization) {s s' : Slot} (h : s ≠ s') (t t' : Option Token) :
    (a.withToken s t).withToken s' t' = (a.withToken s' t').withToken s t := by
  have htokens : ((a.withToken s t).withToken s' t').tokens =
      ((a.withToken s' t').withToken s t).tokens := by
    funext x
    by_cases hs : x = s
    · subst hs
      rw [tokens_withToken_of_ne _ _ h, tokens_withToken, tokens_withToken]
    · rw [tokens_withToken_of_ne _ t hs]
      by_cases hs' : x = s'
      · rw [hs', tokens_withToken, tokens_withToken]
      · rw [tokens_withToken_of_ne _ _ hs', tokens_withToken_of_ne _ _ hs',
          tokens_withToken_of_ne _ _ hs]
  show { a with tokens := ((a.withToken s t).withToken s' t').tokens } = _
  rw [htokens]
  rfl

theorem find?_eq_none_iff :
    a.find? value = none ↔ ∀ slot t, a.tokens slot = some t → t.value ≠ value := by
  constructor
  · intro h slot t ht hvalue
    obtain ⟨_, _, hfind⟩ := exists_find? ht hvalue
    rw [h] at hfind
    cases hfind
  · intro h
    cases hfind : a.find? value with
    | none => rfl
    | some found =>
      obtain ⟨ht, hvalue⟩ := find?_eq_some hfind
      exact absurd hvalue (h _ _ ht)

/-! ## The token of the value -/

theorem invalidate_of_find?_eq_none (h : a.find? value = none) : a.invalidate value = a := by
  rcases invalidate_cases a value with ⟨heq, _⟩ | ⟨slot, t, hfind, _⟩
  · exact heq
  · rw [h] at hfind
    cases hfind

theorem HeldFirst.invalidate_eq (h : a.HeldFirst value slot t) :
    a.invalidate value = a.withToken slot (some t.invalidate) := by
  have hfind := find?_eq_some_iff.mpr h
  rcases invalidate_cases a value with ⟨heq, hflag⟩ | ⟨slot', t', hfind', _, heq⟩
  · -- The flag is set already, and what is put into the slot is what is there.
    have hsame : t.invalidate = t := by
      have hset := hflag slot t hfind
      cases t
      cases hset
      rfl
    rw [heq, hsame, withToken_eq_self h.held]
  · rw [hfind] at hfind'
    cases hfind'
    exact heq

/-- A slot has the token that it had, or that token invalidated if its value is the one. -/
theorem tokens_invalidate_cases (a : Authorization) (value : String) (slot : Slot) :
    (a.invalidate value).tokens slot = a.tokens slot ∨
      ∃ t, a.tokens slot = some t ∧ t.value = value ∧
        (a.invalidate value).tokens slot = some t.invalidate := by
  rcases invalidate_cases a value with ⟨heq, _⟩ | ⟨first, t, hfind, _, heq⟩
  · exact .inl (by rw [heq])
  · obtain ⟨ht, hvalue⟩ := find?_eq_some hfind
    rw [heq]
    by_cases hs : slot = first
    · rw [hs, tokens_withToken]
      exact .inr ⟨t, ht, hvalue, rfl⟩
    · exact .inl (a.tokens_withToken_of_ne _ hs)

/-- Whatever does not look at the flag of a token says the same of the slots as before. -/
theorem map_tokens_invalidate {f : Token → β} (hf : ∀ t, f t.invalidate = f t) (a : Authorization)
    (value : String) (slot : Slot) :
    ((a.invalidate value).tokens slot).map f = (a.tokens slot).map f := by
  rcases a.tokens_invalidate_cases value slot with hsame | ⟨t, ht, _, hset⟩
  · rw [hsame]
  · rw [ht, hset, Option.map_some, Option.map_some, hf]

theorem exists_tokens_of_invalidate {u : Token} (h : (a.invalidate value).tokens slot = some u) :
    ∃ t, a.tokens slot = some t ∧ t.value = u.value := by
  have hvalue := map_tokens_invalidate (f := Token.value) (fun _ => rfl) a value slot
  rw [h] at hvalue
  exact Option.map_eq_some_iff.mp hvalue.symm

theorem HeldFirst.after_invalidate (h : a.HeldFirst other slot t) {u : Token}
    (hu : (a.invalidate value).tokens slot = some u) :
    (a.invalidate value).HeldFirst other slot u := by
  obtain ⟨hheld, hvalue, before, after, hall, hfirst⟩ := h
  refine ⟨hu, ?_, before, after, hall, fun earlier hmem x hx => ?_⟩
  · obtain ⟨t', ht', hsame⟩ := exists_tokens_of_invalidate hu
    rw [hheld] at ht'
    cases ht'
    exact hsame.symm.trans hvalue
  · obtain ⟨y, hy, hsame⟩ := exists_tokens_of_invalidate hx
    rw [← hsame]
    exact hfirst earlier hmem y hy

theorem HeldFirst.invalidate (h : a.HeldFirst value slot t) :
    (a.invalidate value).HeldFirst value slot t.invalidate := by
  refine h.after_invalidate ?_
  rw [h.invalidate_eq, tokens_withToken]

/-- Any other value is found as before, with its flag as it was. -/
theorem find?_invalidate_of_ne (h : other ≠ value) :
    (a.invalidate value).find? other = a.find? other := by
  cases hfind : a.find? other with
  | none =>
    rw [find?_eq_none_iff] at hfind ⊢
    intro slot u hu
    obtain ⟨t, ht, hsame⟩ := exists_tokens_of_invalidate hu
    rw [← hsame]
    exact hfind slot t ht
  | some found =>
    obtain ⟨slot, t⟩ := found
    have hfirst := find?_eq_some_iff.mp hfind
    refine find?_eq_some_iff.mpr (hfirst.after_invalidate ?_)
    rcases a.tokens_invalidate_cases value slot with hsame | ⟨u, hu, hvalue, _⟩
    · rw [hsame, hfirst.held]
    · rw [hfirst.held] at hu
      cases hu
      exact absurd (hfirst.value_eq.symm.trans hvalue) h

/-! ## Laws -/

theorem invalidate_invalidate (a : Authorization) (value : String) :
    (a.invalidate value).invalidate value = a.invalidate value := by
  cases hfind : a.find? value with
  | none => rw [invalidate_of_find?_eq_none hfind, invalidate_of_find?_eq_none hfind]
  | some found =>
    have hfirst := (find?_eq_some_iff.mp hfind).invalidate
    rw [hfirst.invalidate_eq, Token.invalidate_invalidate, withToken_eq_self hfirst.held]

/-- Invalidating a value that is not held changes nothing in whatever order. -/
theorem invalidate_comm_of_find?_eq_none (h : a.find? value = none) (other : String) :
    (a.invalidate value).invalidate other = (a.invalidate other).invalidate value := by
  rw [invalidate_of_find?_eq_none h]
  by_cases hsame : value = other
  · rw [hsame, invalidate_invalidate]
  · rw [invalidate_of_find?_eq_none ((find?_invalidate_of_ne hsame).trans h)]

theorem invalidate_comm (a : Authorization) (value other : String) :
    (a.invalidate value).invalidate other = (a.invalidate other).invalidate value := by
  cases hfind : a.find? value with
  | none => exact invalidate_comm_of_find?_eq_none hfind other
  | some found =>
    cases hother : a.find? other with
    | none => exact (invalidate_comm_of_find?_eq_none hother value).symm
    | some found' =>
      by_cases hsame : value = other
      · rw [hsame]
      · have hfirst := find?_eq_some_iff.mp hfind
        have hfirst' := find?_eq_some_iff.mp hother
        have hslots : found.1 ≠ found'.1 := by
          intro hslot
          have hheld := hfirst'.held
          rw [← hslot, hfirst.held] at hheld
          rw [← hfirst.value_eq, ← hfirst'.value_eq, Option.some_inj.mp hheld] at hsame
          exact hsame rfl
        -- Each of the two is still the first of its value after the other was invalidated.
        have hafter := find?_eq_some_iff.mp ((find?_invalidate_of_ne hsame).trans hfind)
        have hafter' := find?_eq_some_iff.mp ((find?_invalidate_of_ne (Ne.symm hsame)).trans hother)
        rw [hafter.invalidate_eq, hafter'.invalidate_eq, hfirst.invalidate_eq,
          hfirst'.invalidate_eq, withToken_comm _ hslots]

/-! ## What is judged by -/

theorem invalidate_eq_tokens (a : Authorization) (value : String) :
    a.invalidate value = { a with tokens := (a.invalidate value).tokens } := by
  rcases invalidate_cases a value with ⟨h, _⟩ | ⟨_, _, _, _, h⟩ <;> rw [h]
  rfl

theorem registeredClientId_invalidate (a : Authorization) (value : String) :
    (a.invalidate value).registeredClientId = a.registeredClientId := by
  rw [invalidate_eq_tokens]

theorem attributes_invalidate (a : Authorization) (value : String) :
    (a.invalidate value).attributes = a.attributes := by
  rw [invalidate_eq_tokens]

theorem clientId_invalidate (a : Authorization) (value : String) (directory : Option Directory) :
    (a.invalidate value).clientId directory = a.clientId directory := by
  unfold clientId
  rw [registeredClientId_invalidate]

/-- The claims of the id token stay with it, whether it is the one that was invalidated or not. -/
theorem effectiveClaims_invalidate (a : Authorization) (value : String) (slot : Slot) (t : Token) :
    (a.invalidate value).effectiveClaims slot t = a.effectiveClaims slot t := by
  have hclaims : ((a.invalidate value).tokens .id).bind (·.claims) =
      (a.tokens .id).bind (·.claims) := by
    rcases a.tokens_invalidate_cases value .id with hsame | ⟨u, hu, _, hset⟩
    · rw [hsame]
    · rw [hu, hset]
      rfl
  unfold effectiveClaims
  rw [hclaims]

end Authorization

/-! ## Verdicts -/

theorem Verdict.ofToken_invalidate (a : Authorization) (value : String) (slot : Slot) (t : Token)
    (clientId : String) (now : Moment) (requester : Option String) :
    ofToken (a.invalidate value) slot t clientId now requester =
      ofToken a slot t clientId now requester := by
  unfold ofToken inactive
  rw [a.id_invalidate, a.effectiveClaims_invalidate]

/-- The verdict about any other value, and what is reported on the way, is as it was. -/
theorem introspect_invalidate_of_ne {value other : String} (h : other ≠ value) (a : Authorization)
    (directory : Option Directory) (clock : Timestamp) (requester : Option String) :
    introspect directory clock requester other (some (a.invalidate value)) =
      introspect directory clock requester other (some a) := by
  unfold introspect
  simp only [Authorization.find?_invalidate_of_ne h, Authorization.clientId_invalidate,
    Authorization.id_invalidate, Verdict.ofToken_invalidate]

/-- The token of the value is inactive at every instant, for a client that is known. -/
theorem outcome_introspect_invalidate {a : Authorization} {value : String} {slot : Slot} {t : Token}
    (h : a.HeldFirst value slot t) {directory : Option Directory} {clientId : String}
    (hclient : a.clientId directory = .ok clientId) {clock : Timestamp} {now : Moment}
    (hnow : clock.toUtc? = some now) (requester : Option String) :
    (introspect directory clock requester value (some (a.invalidate value))).outcome =
      .ok (.basic false clientId t) := by
  rw [outcome_introspect_of_held _ _ _ (Authorization.find?_eq_some_iff.mpr h.invalidate),
    Claim.outcome_instantOf hnow, a.clientId_invalidate, hclient]
  exact Verdict.outcome_ofToken ..

end GrantKeeper
