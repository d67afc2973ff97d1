/-
The store as a finite map: a lookup by id answers for what was last saved under the id.

The answer is the normal form of that authorization.  It keeps no type of a token outside the access
slot, not even the empty one that an authorization may have there.
-/
import GrantKeeper.Proofs.Grant.NormalForm
import GrantKeeper.Proofs.Service.Lookup

namespace GrantKeeper

open Service

/-- After any run from nothing, a lookup by id finds nothing under an id that nothing was saved
under since it was last removed, and otherwise exactly the normal form of what was saved last. -/
theorem findById_run {requests : List Request}
    (hsaved : ∀ a, .save (some a) ∈ requests → a.WellFormed) {id : String}
    (hid : Text.isBlankText id = false) :
    (lastSaved requests id = none →
      ((empty.run requests).store.findById (empty.run requests).directory id).outcome =
        .ok none) ∧
    ∀ a, lastSaved requests id = some a →
      (empty.run requests).directory.Registered a.registeredClientId →
      ∃ b, b.IsNormalFormOf a ∧
        ((empty.run requests).store.findById (empty.run requests).directory id).outcome =
          .ok (some b) := by
  have hstore := represents_run requests
  refine ⟨fun hnone => hstore.findById_of_none _ hid hnone, fun a ha hclient => ?_⟩
  obtain ⟨row, hwritten, hfound⟩ := hstore.findById_of_some _ hid ha
  have hload := Row.load_of_registered hwritten (lastSaved_forall hsaved id a ha) hclient
  refine ⟨a.normal, Authorization.isNormalFormOf_iff.mpr rfl, ?_⟩
  rw [hfound, hload]
  rfl

/-! ## A run -/

/-- A client of the runs below. -/
def sampleClient : Client := ⟨"c1", "client-1", "", .empty⟩

/-- An access token that expires a second after it was issued. -/
def sampleToken : Token where
  value := "at-1"
  issuedAt := some ⟨0, by decide⟩
  expiresAt := some ⟨1000000, by decide⟩
  metadata := [("trace", .list [.bool true, .null])]
  claims := some [("sub", .text "alice")]
  invalidated := false
  tokenType := some "BEARER"
  scopes := .ofList ["read", "write"]
  value_ne := by decide
  leavesReserved := by
    unfold Claims.LeavesReserved
    decide
  timesOrdered := by decide

/-- A refresh token whose type is the empty text. -/
def sampleRefreshToken : Token :=
  { sampleToken with
    value := "rt-1"
    tokenType := some ""
    scopes := .empty
    value_ne := by decide }

/-- An authorization with the two tokens. -/
def sampleAuthorization : Authorization where
  id := "a1"
  registeredClientId := "c1"
  principalName := "alice"
  grantType := "authorization_code"
  attributes := [("state", .text "xyz")]
  tokens := Slot.table none (some sampleToken) none (some sampleRefreshToken)

theorem sampleAuthorization_wellFormed : sampleAuthorization.WellFormed where
  valid := Authorization.brokenRule?_eq_none_iff.mp rfl
  keysOnce := Authorization.keysOnce_of_all rfl rfl

/-- A run that registers a client and saves an authorization saves no other. -/
theorem forall_saved {P : Authorization → Prop} (client : Client) {a : Authorization} (h : P a) :
    ∀ b, .save (some b) ∈ [Request.register client, .save (some a)] → P b := by
  intro b hb
  simp only [List.mem_cons, List.not_mem_nil, or_false, reduceCtorEq, false_or,
    Request.save.injEq, Option.some_inj] at hb
  rw [hb]
  exact h

/-- A client is registered, its authorization saved twice, and a removal of nothing fails. -/
def sampleRequests : List Request :=
  [.register sampleClient, .save (some sampleAuthorization),
    .save (some (sampleAuthorization.invalidate "at-1")), .remove none]

theorem sampleRequests_wellFormed :
    ∀ a, .save (some a) ∈ sampleRequests → a.WellFormed := by
  intro a ha
  simp only [sampleRequests, List.mem_cons, List.not_mem_nil, or_false, reduceCtorEq, false_or,
    Request.save.injEq, Option.some_inj] at ha
  rcases ha with rfl | rfl
  · exact sampleAuthorization_wellFormed
  · exact sampleAuthorization_wellFormed.invalidate "at-1"

theorem findById_run_sample :
    ∃ b, b.IsNormalFormOf (sampleAuthorization.invalidate "at-1") ∧
      ((empty.run sampleRequests).store.findById (empty.run sampleRequests).directory
        "a1").outcome = .ok (some b) :=
  (findById_run sampleRequests_wellFormed (by decide)).2 _ rfl rfl

/-- It is not so that every token comes back with its type, but for the spelling of bearer: the
empty type of a refresh token does not. -/
theorem findById_run_not_keeps_types :
    ¬∀ requests : List Request, (∀ a, .save (some a) ∈ requests → a.WellFormed) →
      ∀ id a b slot t n, Text.isBlankText id = false → lastSaved requests id = some a →
        (empty.run requests).directory.Registered a.registeredClientId →
        ((empty.run requests).store.findById (empty.run requests).directory id).outcome =
          .ok (some b) →
        a.tokens slot = some t → b.tokens slot = some n →
        Token.TypeLeft t.tokenType n.tokenType := by
  intro hkeeps
  have hid : Text.isBlankText "a1" = false := by decide
  have hclient : (empty.run sampleRequests).directory.Registered "c1" := rfl
  obtain ⟨row, hwritten, hfound⟩ := (represents_run sampleRequests).findById_of_some
    (empty.run sampleRequests).directory hid rfl
  have hload := Row.load_of_registered hwritten
    (sampleAuthorization_wellFormed.invalidate "at-1") hclient
  rw [hload] at hfound
  have hkept := hkeeps sampleRequests sampleRequests_wellFormed "a1" _ _ .refresh
    sampleRefreshToken (sampleRefreshToken.normalIn .refresh) (by decide) rfl rfl hfound rfl rfl
  cases hkept

end GrantKeeper
