/-
Persistence does not change a verdict.

What the store gives back under an id is the normal form of what was saved last under it, so the
verdicts about the normal form carry over to the stored copy.  The one thing that a row can lose of
a time claim is an offset of less than a second: its text is read back as that of UTC.
-/
import GrantKeeper.Proofs.Grant.NormalForm
import GrantKeeper.Proofs.Introspection.Stored
import GrantKeeper.Proofs.Service.Saving

namespace GrantKeeper

open Service

/-- A verdict as it is left of another: the type is in its one spelling, the scopes are those that a
column tells apart, and all else is the same. -/
structure Verdict.IsNormalFormOf (w v : Verdict) : Prop where
  others : w = { v with tokenType := w.tokenType, scopes := w.scopes }
  tokenType : Token.TypeLeft v.tokenType w.tokenType
  unscoped : v.scopes = none → w.scopes = none
  scopes : ∀ given, v.scopes = some given → ∃ left, w.scopes = some left ∧
    ∀ scope, scope ∈ left ↔ scope ≠ "" ∧ ∃ s ∈ given, ∃ piece ∈ Text.pieces ',' s.toList,
      Text.trim (String.ofList piece) = scope

theorem Verdict.isNormalFormOf_normal (v : Verdict) : v.normal.IsNormalFormOf v where
  others := rfl
  tokenType := Token.typeLeft_iff.mpr rfl
  unscoped hnone := by rw [normal, hnone, Option.map_none]
  scopes given hgiven :=
    ⟨given.normal, by rw [normal, hgiven, Option.map_some], fun _ => ScopeSet.mem_normal_iff⟩

/-- All claims of an authorization that has been written to a row can be written. -/
theorem Authorization.WrittenAs.writable {a : Authorization} {row : Row} (h : a.WrittenAs row) :
    a.ForClaims fun claims => (Claim.map claims).fault? = none := by
  intro slot t claims ht hclaims
  obtain ⟨metadata, hencode, _⟩ := h.columns_of_some ht
  have hfolded : (Claim.map t.foldedMetadata).fault? = none := by
    rw [Claims.encode_eq] at hencode
    cases hfault : (Claim.map t.foldedMetadata).fault? with
    | none => rfl
    | some fault =>
      rw [hfault] at hencode
      cases hencode
  rw [Token.fault?_foldedMetadata, List.findSome?_eq_none_iff] at hfolded
  refine hfolded claims (List.mem_cons_of_mem t.metadata ?_)
  rw [hclaims]
  exact List.mem_singleton_self claims

/-- An authorization that was saved last under its id is found there wherever its client is
registered, and a verdict about it has a counterpart about the stored copy.  Both agree on whether,
for whom and when the token is valid, provided that the time claim they go by, if it is a timestamp,
has no offset of less than a second.  Where no claim holds a timestamp or a set the verdict about
the stored copy is the very same but for the one spelling of the type and the scopes as a column
tells them apart. -/
theorem introspect_stored {requests : List Request} {a : Authorization} (ha : a.WellFormed)
    (hsaved : lastSaved requests a.id = some a)
    (hclient : (empty.run requests).directory.Registered a.registeredClientId)
    {directory : Option Directory} {clock : Timestamp} {requester : Option String} {value : String}
    {v : Verdict} (hv : (introspect directory clock requester value (some a)).outcome = .ok v) :
    ∃ b, ((empty.run requests).store.findById (empty.run requests).directory a.id).outcome =
        .ok (some b) ∧
      ((∀ slot t, a.HeldFirst value slot t → (a.toldClaim slot t "nbf").KeepsOffset) →
        ∃ w, (introspect directory clock requester value (some b)).outcome = .ok w ∧
          w.Agrees v) ∧
      ((a.ForClaims fun claims => ∀ x : Claim, x.Within (.map claims) → x.Plain) →
        ∃ w, (introspect directory clock requester value (some b)).outcome = .ok w ∧
          w.IsNormalFormOf v) := by
  have hstore := represents_run requests
  obtain ⟨row, hwritten, hfound⟩ := hstore.findById_of_some (empty.run requests).directory
    (not_blank_of_lastSaved hsaved) hsaved
  rw [Row.load_of_registered hwritten ha hclient] at hfound
  refine ⟨a.normal, hfound, fun hoffset => ?_, fun hplain => ?_⟩
  · exact introspect_normal ha.keysOnce hwritten.writable hoffset hv
  · rw [outcome_introspect_normal ha.keysOnce hplain, hv]
    exact ⟨v.normal, rfl, v.isNormalFormOf_normal⟩

/-! ## A run -/

/-- The sample with an id token that is valid from a timestamp on. -/
def validFrom (t : Timestamp) : Authorization :=
  { sampleAuthorization with
    tokens := Slot.table none (some sampleToken)
      (some { sampleRefreshToken with
        value := "id-1"
        claims := some [("nbf", .time t)]
        tokenType := none
        value_ne := by decide }) none }

theorem validFrom_wellFormed (t : Timestamp) : (validFrom t).WellFormed where
  valid := Authorization.brokenRule?_eq_none_iff.mp rfl
  keysOnce := Authorization.keysOnce_of_all rfl rfl

/-- Its client is registered and it is saved. -/
def validFromRequests (t : Timestamp) : List Request :=
  [.register sampleClient, .save (some (validFrom t))]

theorem registered_validFrom (t : Timestamp) :
    (empty.run (validFromRequests t)).directory.Registered "c1" := rfl

/-- One o'clock, by a clock that is an hour ahead. -/
def hourAhead : Timestamp :=
  ⟨⟨3600000000, by decide⟩, some ⟨3600000000, by decide, by decide⟩⟩

/-- The access token goes by the claim of the id token, in memory as in the store. -/
theorem introspect_stored_sample :
    ∃ b v w, ((empty.run (validFromRequests hourAhead)).store.findById
        (empty.run (validFromRequests hourAhead)).directory "a1").outcome = .ok (some b) ∧
      (introspect none (.naive ⟨500000, by decide⟩) none "at-1"
        (some (validFrom hourAhead))).outcome = .ok v ∧
      (introspect none (.naive ⟨500000, by decide⟩) none "at-1" (some b)).outcome = .ok w ∧
      v.active = true ∧ w.Agrees v := by
  obtain ⟨v, hv, hactive⟩ : ∃ v : Verdict, (introspect none (.naive ⟨500000, by decide⟩) none "at-1"
      (some (validFrom hourAhead))).outcome = .ok v ∧ v.active = true := ⟨_, rfl, rfl⟩
  have hsaved : lastSaved (validFromRequests hourAhead) "a1" = some (validFrom hourAhead) := rfl
  have hfirst : (validFrom hourAhead).HeldFirst "at-1" .access sampleToken :=
    Authorization.find?_eq_some_iff.mp rfl
  have hoffset : ∀ slot t, (validFrom hourAhead).HeldFirst "at-1" slot t →
      ((validFrom hourAhead).toldClaim slot t "nbf").KeepsOffset := by
    rw [hfirst.forall_iff]
    intro offset hmem
    cases hmem
    exact .inr (by decide)
  obtain ⟨b, hb, hagrees, _⟩ := introspect_stored (validFrom_wellFormed hourAhead) hsaved
    (registered_validFrom hourAhead) hv
  obtain ⟨w, hw, hwv⟩ := hagrees hoffset
  exact ⟨b, v, w, hb, hv, hw, hactive, hwv⟩

/-- Six tenths of a second past midnight, by a clock that is half a second ahead. -/
def halfSecondAhead : Timestamp :=
  ⟨⟨600000, by decide⟩, some ⟨500000, by decide, by decide⟩⟩

/-- It is not so that the verdicts agree whatever the offset.  What is valid from a tenth of a
second past midnight on comes back from the store as valid from six tenths on. -/
theorem introspect_stored_not_agrees :
    ¬∀ (requests : List Request) (a b : Authorization) (v : Verdict), a.WellFormed →
      lastSaved requests a.id = some a →
      (empty.run requests).directory.Registered a.registeredClientId →
      ((empty.run requests).store.findById (empty.run requests).directory a.id).outcome =
        .ok (some b) →
      ∀ directory clock requester value,
        (introspect directory clock requester value (some a)).outcome = .ok v →
        ∃ w, (introspect directory clock requester value (some b)).outcome = .ok w ∧
          w.Agrees v := by
  intro hagrees
  have hwell := validFrom_wellFormed halfSecondAhead
  have hclient := registered_validFrom halfSecondAhead
  have hsaved : lastSaved (validFromRequests halfSecondAhead) "a1" =
    some (validFrom halfSecondAhead) := rfl
  obtain ⟨row, hwritten, hfound⟩ := (represents_run _).findById_of_some
    (empty.run (validFromRequests halfSecondAhead)).directory (not_blank_of_lastSaved hsaved) hsaved
  rw [Row.load_of_registered hwritten hwell hclient] at hfound
  obtain ⟨v, hv, hactive⟩ : ∃ v : Verdict, (introspect none (.naive ⟨500000, by decide⟩) none "at-1"
      (some (validFrom halfSecondAhead))).outcome = .ok v ∧ v.active = true := ⟨_, rfl, rfl⟩
  obtain ⟨late, hlate, hinactive⟩ : ∃ late : Verdict, (introspect none (.naive ⟨500000, by decide⟩)
      none "at-1" (some (validFrom halfSecondAhead).normal)).outcome = .ok late ∧
        late.active = false := ⟨_, rfl, rfl⟩
  obtain ⟨w, hw, hwv⟩ := hagrees _ _ _ v hwell hsaved hclient hfound none
    (.naive ⟨500000, by decide⟩) none "at-1" hv
  rw [hlate] at hw
  cases hw
  have hsame := hwv.active
  rw [hactive, hinactive] at hsame
  cases hsame

end GrantKeeper
