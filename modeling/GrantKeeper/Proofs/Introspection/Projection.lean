/-
What an active verdict tells, and what it depends on.

An active verdict tells the client, the times of the first token of the value, its type and scopes
if it is an access token, and what is read of five claims (`Verdict.Tells`).  A claim counts if the
token has one of its key, be it null, and else if the id token beside it has one
(`Authorization.layeredClaim`).  Nothing else goes into a verdict, so two authorizations that have
the same claims have the same one, whoever asks (`introspect_tells`).  Equality by value is not
enough for that (`introspect_tells_not_same`): a set is told in the order in which its items come,
and a number in its own form.
-/
import GrantKeeper.Proofs.Claim.Reordering
import GrantKeeper.Proofs.Introspection.ClaimFaults

namespace GrantKeeper

/-! ## Claims in another order -/

namespace Claim

variable {c c' : Claim}

theorem anyOversized_eq_any (items : List Claim) :
    anyOversized items = (items.map hasOversized).any id := by
  induction items with
  | nil => rfl
  | cons x xs ih => rw [anyOversized, ih]; rfl

theorem anyOversizedEntry_eq_any (entries : List (String × Claim)) :
    anyOversizedEntry entries = ((entries.map (·.2)).map hasOversized).any id := by
  induction entries with
  | nil => rfl
  | cons e es ih => rw [anyOversizedEntry, ih]; rfl

theorem Reordered.hasOversized_eq (h : c.Reordered c') : c.hasOversized = c'.hasOversized := by
  induction c using induct generalizing c' with
  | step c ih =>
    cases h with
    | same => rfl
    | list hitems =>
      rw [hasOversized, hasOversized, anyOversized_eq_any, anyOversized_eq_any,
        map_eq_of_forall₂ hitems fun x hx x' hx' => ih x hx hx']
    | set hitems => exact anyOversized_perm hitems
    | map _ hvalues =>
      rw [hasOversized, hasOversized, anyOversizedEntry_eq_any, anyOversizedEntry_eq_any,
        map_eq_of_forall₂ hvalues fun x hx x' hx' => ih x hx hx']

theorem Reordered.overlong_iff (h : c.Reordered c') : c.Overlong ↔ c'.Overlong := by
  rw [← not_iff_not, ← hasOversized_eq_false_iff, ← hasOversized_eq_false_iff, h.hasOversized_eq]

theorem Reordered.isSeveral_iff (h : c.Reordered c') : c.IsSeveral ↔ c'.IsSeveral := by
  cases h <;> exact Iff.rfl

theorem Reordered.named?_eq (h : c.Reordered c') : c.named? = c'.named? := by
  cases h <;> rfl

theorem Reordered.instantFault_iff (h : c.Reordered c') {fault : Fault} :
    c.InstantFault fault ↔ c'.InstantFault fault := by
  cases h with
  | same => exact Iff.rfl
  | _ => exact iff_of_false nofun nofun

/-- The texts of several values that have no sets in them are the same, but for the order of those of
a set. -/
theorem Reordered.texts?_rel (h : c.Reordered c') (hparts : ∀ x ∈ c.parts, x.Setless) :
    Option.Rel List.Perm c.texts? c'.texts? := by
  have hrefl : ∀ texts : Option (List String), Option.Rel List.Perm texts texts := by
    intro texts
    cases texts with
    | none => exact .none
    | some texts => exact .some (.refl texts)
  cases h with
  | same => exact hrefl _
  | @list items items' hitems =>
    have hsame : items.map id = items'.map id :=
      map_eq_of_forall₂ hitems fun x hx x' hx' => hx'.eq_of_setless (hparts x hx)
    rw [List.map_id, List.map_id] at hsame
    rw [hsame]
    exact hrefl _
  | set hitems => exact .some (hitems.map toText)
  | map => exact .none

end Claim

namespace Verdict

/-- The keys of the claims that a verdict reads. -/
def readKeys : List String := ["nbf", "sub", "aud", "iss", "jti"]

/-- What an active verdict tells of a token in a slot. -/
structure Tells (v : Verdict) (a : Authorization) (slot : Slot) (t : Token) : Prop where
  issuedAt : v.issuedAt = t.issuedAt.map .ofUtc
  expiresAt : v.expiresAt = t.expiresAt.map .ofUtc
  tokenType : v.tokenType = if slot = .access then t.tokenType else none
  scopes : v.scopes = if slot = .access then some t.scopes else none
  notBefore : v.notBefore = (a.toldClaim slot t "nbf").named?.map .ofUtc
  subject : v.subject = (a.toldClaim slot t "sub").text?
  audience : v.audience = (a.toldClaim slot t "aud").texts?
  issuer : v.issuer = (a.toldClaim slot t "iss").text?
  tokenId : v.tokenId = (a.toldClaim slot t "jti").text?

/-- Two tokens of one slot, each beside the others of its authorization, that agree on all that a
verdict reads, where claims agree by some relation. -/
structure Indistinct (R : Claim → Claim → Prop) (a b : Authorization) (slot : Slot)
    (t u : Token) : Prop where
  issuedAt : t.issuedAt = u.issuedAt
  expiresAt : t.expiresAt = u.expiresAt
  invalidated : t.invalidated = u.invalidated
  tokenType : slot = .access → t.tokenType = u.tokenType
  scopes : slot = .access → t.scopes = u.scopes
  told : ∀ key ∈ readKeys, R (a.toldClaim slot t key) (b.toldClaim slot u key)

/-- Two verdicts about a token that differ at most where a set is told: in the order of an audience,
and in the text of a claim that has a set in it. -/
structure SameButOrder (a : Authorization) (slot : Slot) (t : Token) (v w : Verdict) : Prop where
  agrees : v.Agrees w
  tokenType : v.tokenType = w.tokenType
  scopes : v.scopes = w.scopes
  subject : (a.toldClaim slot t "sub").Setless → v.subject = w.subject
  issuer : (a.toldClaim slot t "iss").Setless → v.issuer = w.issuer
  tokenId : (a.toldClaim slot t "jti").Setless → v.tokenId = w.tokenId
  audience : (a.toldClaim slot t "aud").Setless → v.audience = w.audience
  members : (∀ x ∈ (a.toldClaim slot t "aud").parts, x.Setless) →
    Option.Rel List.Perm v.audience w.audience

variable {R : Claim → Claim → Prop} {a b : Authorization} {slot : Slot} {t u : Token}
  {clientId : String}

/-! ## Projections -/

theorem tells_of_projected (hkeys : a.KeysOnce) (ht : a.tokens slot = some t) {v : Verdict}
    (h : projected clientId slot t (a.effectiveClaims slot t)
      (a.toldClaim slot t "nbf").named? = .ok v) :
    v.Tells a slot t ∧ v.clientId = some clientId := by
  unfold projected at h
  dsimp only at h
  simp only [Authorization.told_effectiveClaims hkeys ht] at h
  obtain ⟨subject, hsubject, h⟩ := Except.bind_eq_ok h
  obtain ⟨audience, haudience, h⟩ := Except.bind_eq_ok h
  obtain ⟨issuer, hissuer, h⟩ := Except.bind_eq_ok h
  obtain ⟨tokenId, htokenId, h⟩ := Except.bind_eq_ok h
  cases h
  exact ⟨⟨rfl, rfl, rfl, rfl, rfl, Claim.eq_text?_of_textIfAny hsubject,
    Claim.eq_texts?_of_audience haudience, Claim.eq_text?_of_textIfAny hissuer,
    Claim.eq_text?_of_textIfAny htokenId⟩, rfl⟩

theorem tells_of_ofToken (hkeys : a.KeysOnce) (ht : a.tokens slot = some t) {now : Moment}
    {requester : Option String} {v : Verdict}
    (h : (ofToken a slot t clientId now requester).outcome = .ok v) (hactive : v.active = true) :
    v.Tells a slot t ∧ v.clientId = some clientId := by
  obtain ⟨_, _, _, hprojected⟩ := ofToken_active h hactive
  rw [Authorization.told_effectiveClaims hkeys ht] at hprojected
  exact tells_of_projected hkeys ht hprojected

/-! ## Tokens with the same claims -/

theorem Indistinct.basic_eq (h : Indistinct R a b slot t u) (active : Bool) (clientId : String) :
    basic active clientId t = basic active clientId u := by
  rw [basic, basic, h.issuedAt, h.expiresAt]

theorem Indistinct.tokenType_eq (h : Indistinct R a b slot t u) :
    (if slot = .access then t.tokenType else none) =
      if slot = .access then u.tokenType else none := by
  split
  · next hslot => exact h.tokenType hslot
  · rfl

theorem Indistinct.scopes_eq (h : Indistinct R a b slot t u) :
    (if slot = .access then some t.scopes else none) =
      if slot = .access then some u.scopes else none := by
  split
  · next hslot => rw [h.scopes hslot]
  · rfl

theorem Indistinct.projected_eq (h : Indistinct Eq a b slot t u) (ha : a.KeysOnce)
    (hb : b.KeysOnce) (ht : a.tokens slot = some t) (hu : b.tokens slot = some u)
    (clientId : String) (earliest : Option Moment) :
    projected clientId slot t (a.effectiveClaims slot t) earliest =
      projected clientId slot u (b.effectiveClaims slot u) earliest := by
  have htold : ∀ key ∈ readKeys, ((a.effectiveClaims slot t).get? key).getD .null =
      ((b.effectiveClaims slot u).get? key).getD .null := by
    intro key hkey
    rw [Authorization.told_effectiveClaims ha ht, Authorization.told_effectiveClaims hb hu]
    exact h.told key hkey
  unfold projected
  rw [h.basic_eq, h.tokenType_eq, h.scopes_eq]
  dsimp only
  rw [htold "sub" (by decide), htold "aud" (by decide), htold "iss" (by decide),
    htold "jti" (by decide)]

theorem Indistinct.outcome_ofToken_eq (h : Indistinct Eq a b slot t u) (ha : a.KeysOnce)
    (hb : b.KeysOnce) (ht : a.tokens slot = some t) (hu : b.tokens slot = some u)
    (clientId : String) (now : Moment) (requester requester' : Option String) :
    (ofToken a slot t clientId now requester).outcome =
      (ofToken b slot u clientId now requester').outcome := by
  rw [outcome_ofToken, outcome_ofToken, Authorization.told_effectiveClaims ha ht,
    Authorization.told_effectiveClaims hb hu, h.told "nbf" (by decide), h.invalidated, h.expiresAt,
    h.basic_eq]
  simp only [h.projected_eq ha hb ht hu]

/-! ## Tokens with sets in another order -/

section

variable (h : Indistinct Claim.Reordered a b slot t u)

include h

theorem Indistinct.begun_iff {now : Moment} : a.Begun slot t now ↔ b.Begun slot u now := by
  rw [Authorization.Begun, Authorization.Begun, (h.told "nbf" (by decide)).named?_eq]

theorem Indistinct.unshown_iff : a.Unshown slot t ↔ b.Unshown slot u := by
  have haud := h.told "aud" (by decide)
  rw [Authorization.Unshown, Authorization.Unshown, (h.told "sub" (by decide)).overlong_iff,
    haud.isSeveral_iff, haud.overlong_iff, (h.told "iss" (by decide)).overlong_iff,
    (h.told "jti" (by decide)).overlong_iff]

theorem Indistinct.claimFault_iff {now : Moment} {fault : Fault} :
    a.ClaimFault slot t now fault ↔ b.ClaimFault slot u now fault := by
  have hnbf := h.told "nbf" (by decide)
  constructor
  · rintro (hstart | ⟨hstart, hbegun, htold⟩)
    · exact .start (hnbf.instantFault_iff.mp hstart)
    · exact .told (fun fault hfault => hstart fault (hnbf.instantFault_iff.mpr hfault))
        (h.begun_iff.mp hbegun) (h.unshown_iff.mp htold)
  · rintro (hstart | ⟨hstart, hbegun, htold⟩)
    · exact .start (hnbf.instantFault_iff.mpr hstart)
    · exact .told (fun fault hfault => hstart fault (hnbf.instantFault_iff.mp hfault))
        (h.begun_iff.mpr hbegun) (h.unshown_iff.mpr htold)

theorem Indistinct.told_eq {key : String} (hkey : key ∈ readKeys)
    (hset : (a.toldClaim slot t key).Setless) :
    a.toldClaim slot t key = b.toldClaim slot u key :=
  (h.told key hkey).eq_of_setless hset

theorem Indistinct.sameButOrder_of_tells {v w : Verdict} (hagrees : v.Agrees w)
    (hv : v.Tells a slot t) (hw : w.Tells b slot u) : SameButOrder a slot t v w where
  agrees := hagrees
  tokenType := by rw [hv.tokenType, hw.tokenType, h.tokenType_eq]
  scopes := by rw [hv.scopes, hw.scopes, h.scopes_eq]
  subject hset := by rw [hv.subject, hw.subject, h.told_eq (by decide) hset]
  issuer hset := by rw [hv.issuer, hw.issuer, h.told_eq (by decide) hset]
  tokenId hset := by rw [hv.tokenId, hw.tokenId, h.told_eq (by decide) hset]
  audience hset := by rw [hv.audience, hw.audience, h.told_eq (by decide) hset]
  members hparts := by
    rw [hv.audience, hw.audience]
    exact (h.told "aud" (by decide)).texts?_rel hparts

end

variable {now : Moment}

/-- Both tokens are kept from being judged by the same, or neither is. -/
theorem Indistinct.error_iff (h : Indistinct Claim.Reordered a b slot t u) (ha : a.KeysOnce)
    (hb : b.KeysOnce) (ht : a.tokens slot = some t) (hu : b.tokens slot = some u)
    (clientId : String) (now : Moment) (requester requester' : Option String) (fault : Fault) :
    (ofToken a slot t clientId now requester).outcome = .error fault ↔
      (ofToken b slot u clientId now requester').outcome = .error fault := by
  rw [(judged_ofToken ha ht clientId now requester).eq_error_iff ha ht,
    (judged_ofToken hb hu clientId now requester').eq_error_iff hb hu, h.invalidated, h.expiresAt,
    h.claimFault_iff]

theorem Indistinct.sameButOrder (h : Indistinct Claim.Reordered a b slot t u) (ha : a.KeysOnce)
    (hb : b.KeysOnce) (ht : a.tokens slot = some t) (hu : b.tokens slot = some u)
    {requester requester' : Option String} {v w : Verdict}
    (hv : (ofToken a slot t clientId now requester).outcome = .ok v)
    (hw : (ofToken b slot u clientId now requester').outcome = .ok w) :
    SameButOrder a slot t v w := by
  obtain ⟨hvactive, _⟩ := (judged_ofToken ha ht clientId now requester).eq_ok hv
  obtain ⟨hwactive, _⟩ := (judged_ofToken hb hu clientId now requester').eq_ok hw
  have hactive : v.active = w.active := by
    rw [Bool.eq_iff_iff, hvactive, hwactive, h.invalidated, h.expiresAt, h.begun_iff]
  cases hcase : v.active with
  | false =>
    rw [ofToken_inactive hv hcase, ofToken_inactive hw (hactive ▸ hcase), h.basic_eq]
    exact ⟨.refl _, rfl, rfl, fun _ => rfl, fun _ => rfl, fun _ => rfl, fun _ => rfl, fun _ => .none⟩
  | true =>
    obtain ⟨hvtells, hvclient⟩ := tells_of_ofToken ha ht hv hcase
    obtain ⟨hwtells, hwclient⟩ := tells_of_ofToken hb hu hw (hactive ▸ hcase)
    refine h.sameButOrder_of_tells ⟨hactive, hvclient.trans hwclient.symm, ?_, ?_, ?_⟩ hvtells
      hwtells
    · rw [hvtells.issuedAt, hwtells.issuedAt, h.issuedAt]
    · rw [hvtells.expiresAt, hwtells.expiresAt, h.expiresAt]
    · rw [hvtells.notBefore, hwtells.notBefore, (h.told "nbf" (by decide)).named?_eq]

end Verdict

/-! ## Introspection -/

/-- An active verdict is about the first token of the value and tells what is projected of it. -/
theorem tells_of_introspect {a : Authorization} (hkeys : a.KeysOnce) {directory : Option Directory}
    {clock : Timestamp} {requester : Option String} {value : String} {v : Verdict}
    (h : (introspect directory clock requester value (some a)).outcome = .ok v)
    (hactive : v.active = true) {slot : Slot} {t : Token} (hfirst : a.HeldFirst value slot t) :
    v.Tells a slot t ∧ ∃ clientId, a.clientId directory = .ok clientId ∧
      v.clientId = some clientId := by
  rw [outcome_introspect_of_held _ _ _ (Authorization.find?_eq_some_iff.mpr hfirst)] at h
  obtain ⟨now, _, h⟩ := Except.bind_eq_ok h
  obtain ⟨clientId, hclientId, h⟩ := Except.bind_eq_ok h
  obtain ⟨htells, hclient⟩ := Verdict.tells_of_ofToken hkeys hfirst.held h hactive
  exact ⟨htells, clientId, hclientId, hclient⟩

section

variable {a b : Authorization} {directory : Option Directory} {value value' : String} {slot : Slot}
  {t u : Token} (hclient : a.clientId directory = b.clientId directory)
  (ht : a.HeldFirst value slot t) (hu : b.HeldFirst value' slot u)

include hclient ht hu

/-- What holds of the judgements of two tokens at any moment holds of the outcomes for their values,
where the client is the same. -/
theorem outcome_introspect_rel {P : Except Fault Verdict → Except Fault Verdict → Prop}
    (herror : ∀ fault, P (.error fault) (.error fault)) {requester requester' : Option String}
    (hP : ∀ clientId now, P (Verdict.ofToken a slot t clientId now requester).outcome
      (Verdict.ofToken b slot u clientId now requester').outcome) (clock : Timestamp) :
    P (introspect directory clock requester value (some a)).outcome
      (introspect directory clock requester' value' (some b)).outcome := by
  rw [outcome_introspect_of_held _ _ _ (Authorization.find?_eq_some_iff.mpr ht),
    outcome_introspect_of_held _ _ _ (Authorization.find?_eq_some_iff.mpr hu), hclient]
  cases (Claim.instantOf clock).outcome with
  | error fault => exact herror fault
  | ok now =>
    cases b.clientId directory with
    | error fault => exact herror fault
    | ok clientId => exact hP clientId now

variable (ha : a.KeysOnce) (hb : b.KeysOnce)

include ha hb

/-- Two authorizations of one client have the same verdict about tokens that agree on all that it
reads. -/
theorem outcome_introspect_congr (h : Verdict.Indistinct Eq a b slot t u) (clock : Timestamp)
    (requester requester' : Option String) :
    (introspect directory clock requester value (some a)).outcome =
      (introspect directory clock requester' value' (some b)).outcome :=
  outcome_introspect_rel (P := Eq) hclient ht hu (fun _ => rfl) (fun clientId now =>
    h.outcome_ofToken_eq ha hb ht.held hu.held clientId now requester requester') clock

/-- And they have the same but for the order in which sets come where that is all they differ in. -/
theorem outcome_introspect_reordered (h : Verdict.Indistinct Claim.Reordered a b slot t u)
    (clock : Timestamp) (requester requester' : Option String) :
    (∀ fault, (introspect directory clock requester value (some a)).outcome = .error fault ↔
      (introspect directory clock requester' value' (some b)).outcome = .error fault) ∧
    ∀ v w, (introspect directory clock requester value (some a)).outcome = .ok v →
      (introspect directory clock requester' value' (some b)).outcome = .ok w →
      Verdict.SameButOrder a slot t v w := by
  refine outcome_introspect_rel (P := fun x y => (∀ fault, x = .error fault ↔ y = .error fault) ∧
    ∀ v w, x = .ok v → y = .ok w → Verdict.SameButOrder a slot t v w) hclient ht hu
    (fun fault => ⟨fun _ => Iff.rfl, fun v w hv => by cases hv⟩) (fun clientId now => ⟨?_, ?_⟩) clock
  · exact h.error_iff ha hb ht.held hu.held clientId now requester requester'
  · exact fun v w hv hw => h.sameButOrder ha hb ht.held hu.held hv hw

end

/-- An active verdict tells the client and what is read of the first token of the value, and a
verdict does not depend on anything else: not on the rest of the authorization, nor on who asks. Of
claims in which sets come in another order the verdict is the same but for that order. -/
theorem introspect_tells {a : Authorization} (ha : a.KeysOnce) (directory : Option Directory)
    {value : String} {slot : Slot} {t : Token} (ht : a.HeldFirst value slot t) :
    (∀ clock requester v, (introspect directory clock requester value (some a)).outcome = .ok v →
      v.active = true →
      v.Tells a slot t ∧
      (∀ d ∈ directory, ∃ client, d.find? a.registeredClientId = some client ∧
        v.clientId = some client.clientId) ∧
      (directory = none → v.clientId = some a.registeredClientId)) ∧
    ∀ (b : Authorization) (value' : String) (u : Token), b.KeysOnce →
      a.clientId directory = b.clientId directory → b.HeldFirst value' slot u →
      ∀ clock requester requester' outcome outcome',
        (introspect directory clock requester value (some a)).outcome = outcome →
        (introspect directory clock requester' value' (some b)).outcome = outcome' →
        (Verdict.Indistinct Eq a b slot t u →
          outcome = outcome' ∧ (outcome >>= Verdict.response) = (outcome' >>= Verdict.response)) ∧
        (Verdict.Indistinct Claim.Reordered a b slot t u →
          (∀ fault, outcome = .error fault ↔ outcome' = .error fault) ∧
          ∀ v w, outcome = .ok v → outcome' = .ok w → Verdict.SameButOrder a slot t v w) := by
  constructor
  · intro clock requester v h hactive
    obtain ⟨htells, clientId, hclientId, hclient⟩ := tells_of_introspect ha h hactive ht
    refine ⟨htells, fun d hd => ?_, fun hnone => ?_⟩
    · rw [Option.mem_def.mp hd, Authorization.clientId] at hclientId
      split at hclientId
      · next client hfound =>
        cases hclientId
        exact ⟨client, hfound, hclient⟩
      · cases hclientId
    · rw [hnone] at hclientId
      cases hclientId
      exact hclient
  · rintro b value' u hb hclient hu clock requester requester' _ _ rfl rfl
    refine ⟨fun hsame => ?_, fun hsame => ?_⟩
    · have houtcome := outcome_introspect_congr hclient ht hu ha hb hsame clock requester requester'
      exact ⟨houtcome, by rw [houtcome]⟩
    · exact outcome_introspect_reordered hclient ht hu ha hb hsame clock requester requester'

/-! ## A sample -/

/-- The sample's access token with other claims, which hide the issuer. -/
def layeredToken (subject audience : Claim) : Token :=
  { sampleToken with
    claims := some [("sub", subject), ("aud", audience), ("iss", .null)] }

/-- The sample with that token beside an id token, which names an issuer, an id and the start of
year 1. -/
def layeredAuthorization (subject audience : Claim) : Authorization :=
  { sampleAuthorization with
    tokens := Slot.table none (some (layeredToken subject audience))
      (some { sampleRefreshToken with
        value := "id-2"
        claims := some [("iss", .text "issuer"), ("jti", .int 7), ("nbf", .int (-62135596800))]
        tokenType := none
        value_ne := by decide }) none }

theorem layeredAuthorization_heldFirst (subject audience : Claim) :
    (layeredAuthorization subject audience).HeldFirst "at-1" .access
      (layeredToken subject audience) :=
  Authorization.find?_eq_some_iff.mp rfl

/-- An access token by another value, with other metadata and with all claims of its own. -/
def aloneToken (subject audience : Claim) : Token :=
  { sampleToken with
    value := "at-2"
    metadata := []
    claims := some [("jti", .int 7), ("nbf", .int (-62135596800)), ("aud", audience),
      ("sub", subject), ("role", .text "admin")]
    value_ne := by decide
    leavesReserved := by
      unfold Claims.LeavesReserved
      decide }

/-- An authorization of another user with that token alone. -/
def aloneAuthorization (subject audience : Claim) : Authorization where
  id := "a2"
  registeredClientId := "c1"
  principalName := "bob"
  grantType := "client_credentials"
  attributes := []
  tokens := Slot.table none (some (aloneToken subject audience)) none none

theorem aloneAuthorization_heldFirst (subject audience : Claim) :
    (aloneAuthorization subject audience).HeldFirst "at-2" .access
      (aloneToken subject audience) :=
  Authorization.find?_eq_some_iff.mp rfl

/-- The two tokens agree on what a verdict reads if they do on subject and audience. -/
theorem indistinct_samples {R : Claim → Claim → Prop} {subject subject' audience audience' : Claim}
    (hsubject : R subject subject') (haudience : R audience audience') (hnull : R .null .null)
    (hint : ∀ n, R (.int n) (.int n)) :
    Verdict.Indistinct R (layeredAuthorization subject audience)
      (aloneAuthorization subject' audience') .access (layeredToken subject audience)
      (aloneToken subject' audience') := by
  refine ⟨rfl, rfl, rfl, fun _ => rfl, fun _ => rfl, ?_⟩
  simp only [Verdict.readKeys, List.forall_mem_cons]
  exact ⟨hint _, hsubject, haudience, hnull, hint _, nofun⟩

theorem hasOversized_zero_eight : (Claim.set [.int 0, .int 8]).hasOversized = false := by
  simp [Claim.hasOversized, Claim.anyOversized, oversized_eq_false_iff, decimal, decimalWithin,
    digitLimit]

/-- Half a second after the first token was issued it has an active verdict, if what it claims can
be shown. -/
theorem exists_introspect_layered {subject audience : Claim}
    (hkeys : (layeredAuthorization subject audience).KeysOnce)
    (hsubject : subject.hasOversized = false) (haudience : audience.hasOversized = false)
    (requester : Option String) :
    ∃ v, (introspect (some (.ofList [sampleClient])) (.ofUtc ⟨500000, by decide⟩) requester "at-1"
      (some (layeredAuthorization subject audience))).outcome = .ok v ∧ v.active = true := by
  have hfirst := layeredAuthorization_heldFirst subject audience
  have hreads : (layeredAuthorization subject audience).ReadsClaims .access
      (layeredToken subject audience) :=
    ⟨⟨_, rfl⟩, ⟨_, Claim.textIfAny_eq_ok hsubject⟩, ⟨_, Claim.audience_eq_ok fun _ => haudience⟩,
      ⟨_, rfl⟩, _, Claim.textIfAny_eq_ok (oversized_eq_false_iff.mpr (by decide))⟩
  have hclient : ∀ d ∈ some (Directory.ofList [sampleClient]), d.Registered "c1" := by
    rintro d ⟨⟩
    rfl
  exact exists_active_introspect hkeys hclient (hfirst.forall_iff.mpr hreads) hfirst rfl
    (Timestamp.toUtc?_ofUtc _) (mem_window_iff.mpr ⟨rfl, rfl⟩) requester

/-- The null of the access token hides the issuer of the id token, whose id and time claim count.
The other token is told alike, with its audience in the order in which that comes. -/
theorem introspect_tells_sample :
    ∃ v w : Verdict,
      (introspect (some (.ofList [sampleClient])) (.ofUtc ⟨500000, by decide⟩) (some "rs") "at-1"
        (some (layeredAuthorization (.text "alice") (.set [.int 0, .int 8])))).outcome = .ok v ∧
      v.active = true ∧ v.clientId = some "client-1" ∧ v.subject = some "alice" ∧
      v.audience = some ["0", "8"] ∧ v.issuer = none ∧ v.tokenId = some "7" ∧
      v.notBefore = some (.ofUtc ⟨0, by decide⟩) ∧
      (introspect (some (.ofList [sampleClient])) (.ofUtc ⟨500000, by decide⟩) none "at-2"
        (some (aloneAuthorization (.text "alice") (.set [.int 0, .int 8])))).outcome = .ok v ∧
      (introspect (some (.ofList [sampleClient])) (.ofUtc ⟨500000, by decide⟩) none "at-2"
        (some (aloneAuthorization (.text "alice") (.set [.int 8, .int 0])))).outcome = .ok w ∧
      Verdict.SameButOrder (layeredAuthorization (.text "alice") (.set [.int 0, .int 8])) .access
        (layeredToken (.text "alice") (.set [.int 0, .int 8])) v w := by
  have hkeys : (layeredAuthorization (.text "alice") (.set [.int 0, .int 8])).KeysOnce :=
    Authorization.keysOnce_of_all rfl rfl
  have hkeys₁ : (aloneAuthorization (.text "alice") (.set [.int 0, .int 8])).KeysOnce :=
    Authorization.keysOnce_of_all rfl rfl
  have hkeys₂ : (aloneAuthorization (.text "alice") (.set [.int 8, .int 0])).KeysOnce :=
    Authorization.keysOnce_of_all rfl rfl
  obtain ⟨v, hv, hactive⟩ := exists_introspect_layered hkeys rfl
    hasOversized_zero_eight (some "rs")
  obtain ⟨htells, hdepends⟩ := introspect_tells hkeys (some (.ofList [sampleClient]))
    (layeredAuthorization_heldFirst _ _)
  obtain ⟨hv', hclient, _⟩ := htells _ _ v hv hactive
  obtain ⟨_, ⟨⟩, hid⟩ := hclient _ rfl
  obtain ⟨hsame, _⟩ := hdepends _ "at-2" _ hkeys₁ rfl (aloneAuthorization_heldFirst _ _)
    (.ofUtc ⟨500000, by decide⟩) (some "rs") none _ _ hv rfl
  obtain ⟨_, hreordered⟩ := hdepends _ "at-2" _ hkeys₂ rfl (aloneAuthorization_heldFirst _ _)
    (.ofUtc ⟨500000, by decide⟩) (some "rs") none _ _ hv rfl
  obtain ⟨hequal, _⟩ := hsame (indistinct_samples rfl rfl rfl fun _ => rfl)
  obtain ⟨herror, horder⟩ := hreordered
    (indistinct_samples (.same _) (.set (.swap _ _ _)) (.same _) fun _ => .same _)
  cases hw : (introspect (some (.ofList [sampleClient])) (.ofUtc ⟨500000, by decide⟩) none "at-2"
      (some (aloneAuthorization (.text "alice") (.set [.int 8, .int 0])))).outcome with
  | error fault => cases (herror fault).mpr hw
  | ok w =>
    exact ⟨v, w, hv, hactive, hid, hv'.subject, hv'.audience, hv'.issuer, hv'.tokenId,
      hv'.notBefore, hequal.symm, rfl, horder v w rfl hw⟩

/-! ## Equality by value -/

/-- Two tokens that agree on all that a verdict reads have the same verdict, where claims agree by
some relation. -/
def Verdict.DecidedBy (R : Claim → Claim → Prop) : Prop :=
  ∀ (a b : Authorization) (directory : Option Directory) (clock : Timestamp)
    (requester requester' : Option String) (value value' : String) (slot : Slot) (t u : Token),
    a.WellFormed → b.WellFormed → a.clientId directory = b.clientId directory →
    a.HeldFirst value slot t → b.HeldFirst value' slot u → Verdict.Indistinct R a b slot t u →
    (introspect directory clock requester value (some a)).outcome =
      (introspect directory clock requester' value' (some b)).outcome

/-- Verdicts that go by a relation tell subjects of it alike, and audiences. -/
theorem Verdict.DecidedBy.told_eq {R : Claim → Claim → Prop} (h : Verdict.DecidedBy R)
    (subject subject' audience audience' : Claim) (hsubject : R subject subject')
    (haudience : R audience audience') (hnull : R .null .null) (hint : ∀ n, R (.int n) (.int n))
    (ha : (layeredAuthorization subject audience).KeysOnce)
    (hb : (aloneAuthorization subject' audience').KeysOnce)
    (hshort : subject.hasOversized = false) (hshort' : audience.hasOversized = false) :
    subject.text? = subject'.text? ∧ audience.texts? = audience'.texts? := by
  obtain ⟨v, hv, hactive⟩ := exists_introspect_layered ha hshort hshort' none
  have hfirst := layeredAuthorization_heldFirst subject audience
  have hfirst' := aloneAuthorization_heldFirst subject' audience'
  have heq := h _ _ (some (.ofList [sampleClient])) (.ofUtc ⟨500000, by decide⟩) none none _ _ _ _ _
    ⟨Authorization.brokenRule?_eq_none_iff.mp rfl, ha⟩
    ⟨Authorization.brokenRule?_eq_none_iff.mp rfl, hb⟩ rfl hfirst hfirst'
    (indistinct_samples hsubject haudience hnull hint)
  obtain ⟨htells, _⟩ := tells_of_introspect ha hv hactive hfirst
  obtain ⟨htells', _⟩ := tells_of_introspect hb (heq.symm.trans hv) hactive hfirst'
  exact ⟨htells.subject.symm.trans htells'.subject, htells.audience.symm.trans htells'.audience⟩

/-- It is not so that claims of the same value are told alike: not where only the order of a set is
another, in which an audience comes, nor where there is no set, for a subject that is one is not told
as one that is true. -/
theorem introspect_tells_not_same :
    (¬Verdict.DecidedBy fun c d => c.same d = true ∧ c.Reordered d) ∧
      ¬Verdict.DecidedBy fun c d => c.same d = true ∧ c.Setless ∧ d.Setless := by
  have hnull : Claim.null.same .null = true := by simp [Claim.same]
  have hint : ∀ n, (Claim.int n).same (.int n) = true := by simp [Claim.same, Claim.asInt?]
  have hnullset : Claim.null.Setless := Claim.setless_iff_parts.mpr (by simp [Claim.parts])
  have hintset : ∀ n, (Claim.int n).Setless := fun n =>
    Claim.setless_iff_parts.mpr (by simp [Claim.parts])
  constructor
  · intro hdecided
    have hsets : (Claim.set [.int 0, .int 8]).same (.set [.int 8, .int 0]) = true := by
      simp [Claim.same, Claim.allAmong, Claim.asInt?]
    obtain ⟨_, haudience⟩ := hdecided.told_eq .null .null (.set [.int 0, .int 8])
      (.set [.int 8, .int 0]) ⟨hnull, .same _⟩ ⟨hsets, .set (.swap _ _ _)⟩ ⟨hnull, .same _⟩
      (fun n => ⟨hint n, .same _⟩) (Authorization.keysOnce_of_all rfl rfl)
      (Authorization.keysOnce_of_all rfl rfl) rfl hasOversized_zero_eight
    exact absurd haudience (by decide)
  · intro hdecided
    have hone : (Claim.int 1).same (.bool true) = true := by simp [Claim.same, Claim.asInt?]
    have hboolset : (Claim.bool true).Setless := Claim.setless_iff_parts.mpr (by simp [Claim.parts])
    obtain ⟨hsubject, _⟩ := hdecided.told_eq (.int 1) (.bool true) .null .null
      ⟨hone, hintset 1, hboolset⟩ ⟨hnull, hnullset, hnullset⟩ ⟨hnull, hnullset, hnullset⟩
      (fun n => ⟨hint n, hintset n, hintset n⟩) (Authorization.keysOnce_of_all rfl rfl)
      (Authorization.keysOnce_of_all rfl rfl) (oversized_eq_false_iff.mpr (by decide)) rfl
    exact absurd hsubject (by decide)

end GrantKeeper
