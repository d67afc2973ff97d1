/-
Stored tokens are reachable.

A token that was saved is found by its value, without a hint as with the one for its slot, as long
as no other row holds the value, and introspecting the value ends with a verdict about it
(`reachable_of_saved`): whatever can be stored can be judged.  The one exception is a value of
blanks only, which may be saved and is refused by every lookup.
-/
import GrantKeeper.Proofs.Service.Scopes
import GrantKeeper.Proofs.Service.StoredVerdict

namespace GrantKeeper

open Service

/-! ## Claims that can be judged -/

namespace Claim

theorem exists_instantOrWarning {number : Claim} (h : number.hasOversized = false)
    (instant : Option Moment) : ∃ m, (instantOrWarning number instant).outcome = .ok m := by
  cases instant with
  | some m => exact ⟨some m, rfl⟩
  | none =>
    rw [instantOrWarning, shownQuoted, h]
    exact ⟨none, rfl⟩

/-- Of the claims that can be read back each is a time claim or is none. -/
theorem exists_instant {c : Claim} (hplain : c.Plain) (hsize : c.hasOversized = false) :
    ∃ m, c.instant.outcome = .ok m := by
  cases c with
  | time t => exact hplain.elim
  | int n => exact exists_instantOrWarning hsize _
  | real x => exact exists_instantOrWarning hsize _
  | text s =>
    rw [instant, instantOfText]
    split
    · exact exists_instantOrWarning rfl _
    · split
      · exact ⟨_, rfl⟩
      · exact ⟨none, rfl⟩
  | _ => exact ⟨none, rfl⟩

end Claim

/-- A token whose claims can be shown and whose time claim is plain has a verdict that knows it. -/
theorem Verdict.exists_ofToken {a : Authorization} {slot : Slot} {t : Token}
    (hshown : ∀ key, (((a.effectiveClaims slot t).get? key).getD .null).hasOversized = false)
    (hplain : (((a.effectiveClaims slot t).get? "nbf").getD .null).Plain) (clientId : String)
    (now : Moment) (requester : Option String) :
    ∃ v, (ofToken a slot t clientId now requester).outcome = .ok v ∧
      v.clientId = some clientId := by
  obtain ⟨notBefore, hinstant⟩ := Claim.exists_instant hplain (hshown "nbf")
  obtain ⟨v, hv⟩ := exists_projected hshown clientId slot t notBefore
  rw [outcome_ofToken, hinstant]
  split
  · exact ⟨_, rfl, rfl⟩
  · show ∃ v, (if notBefore.any (now < ·) then _ else _) = _ ∧ _
    split
    · exact ⟨_, rfl, rfl⟩
    · exact ⟨v, hv, (agrees_of_projected hv).clientId⟩

/-- The normal form of what can be written has a verdict about every value that it holds. -/
theorem exists_introspect_normal {a : Authorization} (hkeys : a.KeysOnce)
    (hwritable : a.ForClaims fun claims => (Claim.map claims).fault? = none)
    {directory : Directory} {client : Client}
    (hclient : directory.find? a.registeredClientId = some client) {clock : Timestamp}
    {now : Moment} (hnow : clock.toUtc? = some now) {value : String} {slot : Slot} {t : Token}
    (hfind : a.find? value = some (slot, t)) (requester : Option String) :
    ∃ v, (introspect (some directory) clock requester value (some a.normal)).outcome = .ok v ∧
      v.clientId = some client.clientId := by
  have ht := (Authorization.find?_eq_some hfind).1
  have hfound : a.normal.find? value = some (slot, t.normalIn slot) := by
    rw [a.find?_normal, hfind, Option.map_some]
  have htold := Authorization.told_effectiveClaims_normal hkeys ht
  have hshown : ∀ key, (((a.normal.effectiveClaims slot (t.normalIn slot)).get? key).getD
      .null).hasOversized = false := fun key => by
    rw [htold]
    exact Claim.hasOversized_of_fault?_eq_none
      (Claim.fault?_normal (Authorization.fault?_toldClaim hwritable ht key))
  have hplain : (((a.normal.effectiveClaims slot (t.normalIn slot)).get? "nbf").getD
      .null).Plain := by
    rw [htold]
    exact Claim.plain_normal _
  have hid : a.normal.clientId (some directory) = .ok client.clientId := by
    have hregistered : directory.find? a.normal.registeredClientId = some client := hclient
    rw [Authorization.clientId, hregistered]
  rw [outcome_introspect_of_held (some directory) clock requester hfound,
    Claim.outcome_instantOf hnow, hid]
  exact Verdict.exists_ofToken hshown hplain client.clientId now requester

/-! ## Tokens of saved authorizations -/

/-- By a hint for its slot a token is found in the row that it was written to. -/
theorem Authorization.WrittenAs.matchesHint {a : Authorization} {row : Row} (h : a.WrittenAs row)
    {slot : Slot} {t : Token} (ht : a.tokens slot = some t) {hint : Hint}
    (hslot : hint.slot? = some slot) : row.matchesHint t.value hint = true := by
  rw [h.matchesHint_iff, a.lookupText_hint, hslot]
  dsimp only
  rw [ht, Option.map_some]

/-- A service finds an authorization under its id as by a value in a slot, and the value can be
judged. -/
structure Service.Reaches (s : Service) (slot : Slot) (value : String) (b : Authorization) :
    Prop where
  byId : (s.store.findById s.directory b.id).outcome = .ok (some b)
  unhinted : (s.store.findByToken s.directory value none).outcome = .ok (some b)
  /-- By every spelling of the hint for the slot. -/
  hinted : ∀ name hint, Hint.parse? name = some hint → hint.slot? = some slot →
    (s.store.findByToken s.directory value (some name)).outcome = .ok (some b)
  /-- At every reading of a clock that is an instant, whatever the hint, and the client is known. -/
  judged : ∀ clock now requester hint, clock.toUtc? = some now → ∃ verdict clientId,
    (s.store.introspect s.directory clock value requester hint).outcome = .ok verdict ∧
      verdict.clientId = some clientId

/-- A service does not accept a value to look for or to judge. -/
structure Service.Refuses (s : Service) (value : String) : Prop where
  lookup : ∀ hint, (s.store.findByToken s.directory value hint).outcome =
    .error (.failure (.precondition "token cannot be empty"))
  introspection : ∀ clock requester hint,
    (s.store.introspect s.directory clock value requester hint).outcome =
      .error (.failure (.precondition "token cannot be empty"))

theorem Service.refuses_of_blank (s : Service) {value : String}
    (h : Text.isBlankText value = true) : s.Refuses value where
  lookup := s.store.outcome_findByToken_of_isBlank s.directory h
  introspection clock requester hint := by
    rw [Store.outcome_introspect, s.store.outcome_findByToken_of_isBlank s.directory h]
    rfl

/-- A row that is loaded is reached by the value of a slot, not a blank one, that no other holds. -/
theorem Service.reaches_of_row {s : Service} {a : Authorization} (ha : a.WellFormed) {row : Row}
    (hrow : s.store.find? a.id = some row) (hwritten : a.WrittenAs row)
    (hid : Text.isBlankText a.id = false)
    (hclient : s.directory.Registered a.registeredClientId) {slot : Slot} (hslot : slot ≠ .id)
    {t : Token} (ht : a.tokens slot = some t) (hvalue : Text.isBlankText t.value = false)
    (honly : ∀ other ∈ s.store.rows, other.Holds t.value → other.id = a.id) :
    s.Reaches slot t.value a.normal := by
  have hload := Row.load_of_registered hwritten ha hclient
  have honce := Store.heldOnce_of_id honly
  have hmem := (Store.id_of_find? hrow).1
  -- Whatever hints are searched by, the row is found if it matches one of them.
  have hfound : ∀ hint hints, Store.searched? hint = some hints →
      hints.any (row.matchesHint t.value) = true →
      (s.store.findByToken s.directory t.value hint).outcome = .ok (some a.normal) :=
    fun hint hints hhints hmatch => by
      rw [Store.outcome_findByToken _ _ hvalue hhints, honce.selected_eq_singleton hmem hmatch,
        Store.loadOnly, Traced.outcome_map, hload]
      rfl
  have hholds : row.Holds t.value :=
    .inr ⟨slot, hslot, by rw [hwritten.value_eq, ht, Option.map_some]⟩
  have hunhinted := hfound none Hint.all rfl ((row.matchesHint_any_all t.value).mpr hholds)
  refine ⟨?_, hunhinted, fun name hint hname hhint => ?_, fun clock now requester hint hnow => ?_⟩
  · have hfind := Store.outcome_findById_of_row hrow hid s.directory
    rw [hload] at hfind
    exact hfind
  · refine hfound (some name) [hint] (by rw [Store.searched?, hname, Option.map_some]) ?_
    rw [List.any_cons, hwritten.matchesHint ht hhint, Bool.true_or]
  · obtain ⟨client, hregistered⟩ := Option.isSome_iff_exists.mp hclient
    obtain ⟨first, held, hfind⟩ := Authorization.exists_find? ht rfl
    obtain ⟨verdict, hverdict, hknown⟩ := exists_introspect_normal ha.keysOnce
      hwritten.writable hregistered hnow hfind requester
    refine ⟨verdict, client.clientId, ?_, hknown⟩
    rw [honce.introspect_eq, hunhinted]
    exact hverdict

/-- A code, an access token or a refresh token that was saved, of an authorization whose client is
registered, is reached by its value wherever no other row holds it, unless the value is blank; what
is found is the normal form of what was saved.  A blank value is refused. -/
theorem reachable_of_saved {s : Service} {a : Authorization} (ha : a.WellFormed)
    (hsaved : (s.perform (.save (some a))).2.outcome = .ok .done) {later : List Request}
    (hlater : ∀ request ∈ later, request.Spares a.id)
    (hclient : (s.run (.save (some a) :: later)).directory.Registered a.registeredClientId)
    {slot : Slot} (hslot : slot ≠ .id) {t : Token} (ht : a.tokens slot = some t)
    (honly : ∀ row ∈ (s.run (.save (some a) :: later)).store.rows,
      row.Holds t.value → row.id = a.id) :
    (Text.isBlankText t.value = false → ∃ b, b.IsNormalFormOf a ∧
      (s.run (.save (some a) :: later)).Reaches slot t.value b) ∧
    (Text.isBlankText t.value = true →
      (s.run (.save (some a) :: later)).Refuses t.value) := by
  refine ⟨fun hvalue => ?_, refuses_of_blank _⟩
  obtain ⟨hid, row, hrow, hwritten⟩ := exists_row_of_saved hsaved hlater
  exact ⟨a.normal, Authorization.isNormalFormOf_iff.mpr rfl,
    reaches_of_row ha hrow hwritten hid hclient hslot ht hvalue honly⟩

/-- The access token of an authorization just saved is found by its value, with the hint for it. -/
theorem reachable_of_saved_sample :
    ∃ b, b.IsNormalFormOf (scopedAuthorization ["read"]) ∧
      ((openService.run [.save (some (scopedAuthorization ["read"]))]).store.findByToken
        (openService.run [.save (some (scopedAuthorization ["read"]))]).directory "at-1"
        (some "access_token")).outcome = .ok (some b) := by
  have hlater : ∀ request ∈ ([] : List Request), request.Spares "a1" := fun _ h => by cases h
  have hslot : Slot.access ≠ .id := by decide
  obtain ⟨hreachable, _⟩ := reachable_of_saved (s := openService)
    (scopedAuthorization_wellFormed ["read"]) rfl hlater rfl hslot rfl
    fun row hrow _ => openService.id_of_mem_run_save rfl _ row hrow
  obtain ⟨b, hb, hreaches⟩ := hreachable (by decide)
  exact ⟨b, hb, hreaches.hinted "access_token" .access rfl rfl⟩

/-- An authorization with an access token whose value is a blank. -/
def blankAuthorization : Authorization :=
  (scopedAuthorization []).withToken .access
    (some { scopedToken [] with
      value := " "
      value_ne := by decide })

theorem blankAuthorization_wellFormed : blankAuthorization.WellFormed where
  valid := Authorization.brokenRule?_eq_none_iff.mp rfl
  keysOnce := Authorization.keysOnce_of_all rfl rfl

/-- It is not so that every token that was saved can be looked up: one of a blank value cannot. -/
theorem reachable_of_saved_not_blank :
    ¬∀ (s : Service) (a : Authorization), a.WellFormed →
      (s.perform (.save (some a))).2.outcome = .ok .done →
      (s.run [.save (some a)]).directory.Registered a.registeredClientId →
      ∀ slot t, slot ≠ .id → a.tokens slot = some t →
        (∀ row ∈ (s.run [.save (some a)]).store.rows, row.Holds t.value → row.id = a.id) →
        ∃ found, ((s.run [.save (some a)]).store.findByToken
          (s.run [.save (some a)]).directory t.value none).outcome = .ok found := by
  intro hreachable
  obtain ⟨found, hfound⟩ := hreachable openService blankAuthorization
    blankAuthorization_wellFormed rfl rfl .access _ (by decide) rfl
    fun row hrow _ => openService.id_of_mem_run_save rfl _ row hrow
  have hrefused : ((openService.run [.save (some blankAuthorization)]).store.findByToken
      (openService.run [.save (some blankAuthorization)]).directory " " none).outcome =
        .error (.failure (.precondition "token cannot be empty")) := rfl
  cases hrefused.symm.trans hfound

end GrantKeeper
