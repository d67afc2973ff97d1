/-
Saving what was made by editing.

A token may be put into a slot without regard to the rules of the slot, and saving does not ask for
them, but loading does.  Of what was made by editing (`Authorization.Derived`) exactly that is found
again whose codes and access tokens have both times; the rest is saved and then is damaged data
(`findById_derived`).  Editing that keeps the rules has no such end.
-/
import GrantKeeper.Proofs.Grant.AccessFields
import GrantKeeper.Proofs.Service.Saved
import GrantKeeper.Proofs.Store.Loading

namespace GrantKeeper

open Service

namespace Authorization

/-- What is made of authorizations that were built or loaded, by invalidating values and by putting
tokens that are admitted, or none, into slots. -/
inductive Derived (Admits : Slot → Token → Prop) : Authorization → Prop
  | built {a : Authorization} (h : a.WellFormed) : Derived Admits a
  | loaded {row : Row} {directory : Directory} {a : Authorization}
      (h : (row.load directory).outcome = .ok a) : Derived Admits a
  | withToken {a : Authorization} (h : Derived Admits a) (slot : Slot) {token : Option Token}
      (hkeys : ∀ t ∈ token, t.keysOnce = true) (hadmits : ∀ t ∈ token, Admits slot t) :
      Derived Admits (a.withToken slot token)
  | invalidate {a : Authorization} (h : Derived Admits a) (value : String) :
      Derived Admits (a.invalidate value)

variable {a : Authorization}

theorem Derived.keysOnce {Admits : Slot → Token → Prop} (h : a.Derived Admits) : a.KeysOnce := by
  induction h with
  | built h => exact h.keysOnce
  | loaded h => exact (Row.load_eq_ok_iff_loadedFrom.mp h).2.2.keysOnce
  | withToken _ slot hkeys _ ih => exact ih.withToken slot hkeys
  | invalidate _ value ih => exact ih.invalidate value

/-- Editing with tokens that keep the rules of their slots keeps the rules. -/
theorem Derived.valid (h : a.Derived fun slot t => slotRule? slot t = none) : a.Valid := by
  induction h with
  | built h => exact h.valid
  | loaded h => exact (Row.load_eq_ok_iff_loadedFrom.mp h).2.2.valid
  | withToken _ slot _ hadmits ih => exact ih.withToken slot hadmits
  | invalidate _ value ih => exact ih.invalidate value

/-- Codes and access tokens say when they were issued and when they expire. -/
def TimesGiven (a : Authorization) : Prop :=
  ∀ slot t, a.tokens slot = some t → slot.requiresExpiry = true →
    t.issuedAt ≠ none ∧ t.expiresAt ≠ none

theorem Valid.timesGiven (h : a.Valid) : a.TimesGiven := fun slot t ht =>
  (slotRule?_eq_none_iff.mp (h slot t ht)).1

/-- Of the rules only that of the times can be broken in normal form. -/
theorem valid_normal_iff : a.normal.Valid ↔ a.TimesGiven := by
  constructor
  · intro h slot t ht
    have htoken : a.normal.tokens slot = some (t.normalIn slot) := by
      rw [tokens_normal, ht, Option.map_some]
    exact (slotRule?_eq_none_iff.mp (h slot _ htoken)).1
  · -- The other rule holds of any normal form, for the fields it forbids are not kept.
    intro h slot token htoken
    obtain ⟨t, ht, rfl⟩ := tokens_normal_eq_some htoken
    exact slotRule?_eq_none_iff.mpr ⟨h slot t ht, fun hne => hasAccessFields_normalIn hne t⟩

end Authorization

/-- A token has the type and the scopes of another, up to the spelling of bearer and to what a
column makes of scopes.  No type is as good as an empty one. -/
structure Token.KeepsAccessFields (n t : Token) : Prop where
  tokenType : ∃ type, Token.TypeLeft t.tokenType type ∧ n.tokenType.getD "" = type.getD ""
  scopes : ∀ scope, scope ∈ n.scopes ↔ t.scopes.Piece scope

/-- In a slot whose rules it keeps, a token keeps its type and scopes in normal form. -/
theorem Token.keepsAccessFields_normalIn {slot : Slot} {t : Token}
    (h : Authorization.slotRule? slot t = none) : (t.normalIn slot).KeepsAccessFields t := by
  have hnormal := t.isNormalFormOf_normalIn slot
  by_cases hs : slot = .access
  · exact ⟨⟨_, hnormal.tokenType hs, rfl⟩,
      fun scope => (hnormal.scopes scope).trans (and_iff_right hs)⟩
  · -- The rule leaves no scope there, and no type but an empty one.
    have hfields := (Authorization.slotRule?_eq_none_iff.mp h).2 hs
    rw [hasAccessFields, Bool.or_eq_false_iff, Bool.not_eq_false', ScopeSet.isEmpty,
      List.isEmpty_iff] at hfields
    obtain ⟨htype, hscopes⟩ := hfields
    refine ⟨?_, fun scope => (hnormal.scopes scope).trans (iff_of_false (fun h => hs h.1) ?_)⟩
    · rw [hnormal.noType hs]
      cases hgiven : t.tokenType with
      | none => exact ⟨none, .absent, rfl⟩
      | some type =>
        rw [hgiven, Option.any_some, decide_eq_false_iff_not, not_not] at htype
        rw [htype]
        exact ⟨some "", .other (by decide +kernel), rfl⟩
    · rintro ⟨_, s, hs, _⟩
      rw [ScopeSet.mem_def, hscopes] at hs
      cases hs

namespace Service

/-- What is found by the id of a saved authorization is its normal form, where the codes and access
tokens have both times. -/
theorem outcome_findById_of_saved {s : Service} {a : Authorization} (hkeys : a.KeysOnce)
    (hsaved : (s.perform (.save (some a))).2.outcome = .ok .done) {later : List Request}
    (hlater : ∀ request ∈ later, request.Spares a.id)
    (hclient : (s.run (.save (some a) :: later)).directory.Registered a.registeredClientId) :
    (a.TimesGiven → ((s.run (.save (some a) :: later)).store.findById
      (s.run (.save (some a) :: later)).directory a.id).outcome = .ok (some a.normal)) ∧
    (¬a.TimesGiven → ((s.run (.save (some a) :: later)).store.findById
      (s.run (.save (some a) :: later)).directory a.id).outcome = .error (.failure
        (.integrity s!"Authorization '{a.id}' violates its invariants" [("id", .text a.id)]))) := by
  obtain ⟨hid, row, hrow, hwritten⟩ := exists_row_of_saved hsaved hlater
  rw [Store.outcome_findById_of_row hrow hid]
  constructor
  · intro htimes
    rw [(Row.load_eq_ok_iff hwritten hkeys).mpr
      ⟨hclient, Authorization.valid_normal_iff.mpr htimes, rfl⟩]
    rfl
  · intro htimes
    obtain ⟨client, hfound⟩ := Option.isSome_iff_exists.mp hclient
    rw [Row.outcome_load hwritten hkeys, hfound]
    cases hrule : a.normal.brokenRule? with
    | none =>
      have hvalid := Authorization.brokenRule?_eq_none_iff.mp hrule
      exact absurd (Authorization.valid_normal_iff.mp hvalid) htimes
    | some rule => rfl

end Service

/-- What was made by editing and is saved is found again by its id, in normal form, exactly if its
codes and access tokens say when they were issued and when they expire; otherwise it is damaged
data.  If it keeps all rules of its slots it is found and every token has its type and scopes, and
what was made with tokens that keep them does. -/
theorem findById_derived {s : Service} {a : Authorization} (ha : a.Derived fun _ _ => True)
    (hsaved : (s.perform (.save (some a))).2.outcome = .ok .done) {later : List Request}
    (hlater : ∀ request ∈ later, request.Spares a.id)
    (hclient : (s.run (.save (some a) :: later)).directory.Registered a.registeredClientId) :
    (a.TimesGiven → ∃ b, b.IsNormalFormOf a ∧
      ((s.run (.save (some a) :: later)).store.findById
        (s.run (.save (some a) :: later)).directory a.id).outcome = .ok (some b)) ∧
    (¬a.TimesGiven → ((s.run (.save (some a) :: later)).store.findById
      (s.run (.save (some a) :: later)).directory a.id).outcome = .error (.failure
        (.integrity s!"Authorization '{a.id}' violates its invariants" [("id", .text a.id)]))) ∧
    (a.Valid → ∃ b, ((s.run (.save (some a) :: later)).store.findById
        (s.run (.save (some a) :: later)).directory a.id).outcome = .ok (some b) ∧
      ∀ slot t, a.tokens slot = some t → ∃ n, b.tokens slot = some n ∧ n.KeepsAccessFields t) ∧
    ((a.Derived fun slot t => Authorization.slotRule? slot t = none) → a.Valid) := by
  obtain ⟨hfound, hdamaged⟩ := Service.outcome_findById_of_saved ha.keysOnce hsaved hlater hclient
  have hnormal : a.normal.IsNormalFormOf a := Authorization.isNormalFormOf_iff.mpr rfl
  refine ⟨fun htimes => ⟨a.normal, hnormal, hfound htimes⟩, hdamaged, fun hvalid => ?_,
    fun hrules => hrules.valid⟩
  refine ⟨a.normal, hfound hvalid.timesGiven, fun slot t ht => ⟨t.normalIn slot, ?_, ?_⟩⟩
  · rw [Authorization.tokens_normal, ht, Option.map_some]
  · exact Token.keepsAccessFields_normalIn (hvalid slot t ht)

/-! ## A token without times -/

/-- The sample with an access token that says neither when it was issued nor when it expires. -/
def untimedAuthorization : Authorization :=
  sampleAuthorization.withToken .access (some
    { sampleToken with
      issuedAt := none
      expiresAt := none
      timesOrdered := by decide })

theorem untimedAuthorization_derived : untimedAuthorization.Derived fun _ _ => True :=
  .withToken (.built sampleAuthorization_wellFormed) .access
    (fun t ht => by
      cases ht
      rfl)
    fun _ _ => trivial

theorem untimedAuthorization_untimed : ¬untimedAuthorization.TimesGiven := fun h =>
  (h .access _ rfl rfl).1 rfl

/-- It is saved, and then it is damaged data. -/
theorem findById_derived_sample :
    (openService.perform (.save (some untimedAuthorization))).2.outcome = .ok .done ∧
    ((openService.run [.save (some untimedAuthorization)]).store.findById
      (openService.run [.save (some untimedAuthorization)]).directory "a1").outcome =
        .error (.failure (.integrity "Authorization 'a1' violates its invariants"
          [("id", .text "a1")])) := by
  have hlater : ∀ request ∈ ([] : List Request), request.Spares "a1" := fun _ h => by cases h
  obtain ⟨_, hdamaged, _⟩ := findById_derived (s := openService) untimedAuthorization_derived rfl
    hlater rfl
  exact ⟨rfl, hdamaged untimedAuthorization_untimed⟩

/-- It is not so that what is saved is found again where its client is registered. -/
theorem findById_derived_not_found :
    ¬∀ (s : Service) (a : Authorization), (a.Derived fun _ _ => True) →
      (s.perform (.save (some a))).2.outcome = .ok .done →
      (s.run [.save (some a)]).directory.Registered a.registeredClientId →
      ∃ b, ((s.run [.save (some a)]).store.findById (s.run [.save (some a)]).directory
        a.id).outcome = .ok (some b) := by
  intro hfound
  have hlater : ∀ request ∈ ([] : List Request), request.Spares "a1" := fun _ h => by cases h
  obtain ⟨b, hb⟩ := hfound openService untimedAuthorization untimedAuthorization_derived rfl rfl
  obtain ⟨_, hdamaged⟩ := Service.outcome_findById_of_saved (s := openService)
    untimedAuthorization_derived.keysOnce rfl hlater rfl
  rw [hdamaged untimedAuthorization_untimed] at hb
  cases hb

end GrantKeeper
