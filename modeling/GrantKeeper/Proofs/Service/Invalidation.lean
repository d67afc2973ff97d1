/-
Saving an authorization with a value invalidated.

The flag is written into the metadata, which no lookup searches.  So the row that is saved is
selected where the row of the authorization itself would have been (`Row.FoundAlike`), and with the
laws of the operation that is all that invalidating a value does (`invalidate_laws`).
-/
import GrantKeeper.Proofs.Introspection.Invalidation
import GrantKeeper.Proofs.Service.Resaving
import GrantKeeper.Proofs.Service.Saving

namespace GrantKeeper

open Service

namespace Authorization

theorem lookupText_invalidate (a : Authorization) (value name : String) :
    (a.invalidate value).lookupText name = a.lookupText name := by
  have hvalue : ∀ slot, ((a.invalidate value).tokens slot).map (·.value) =
      (a.tokens slot).map (·.value) := a.map_tokens_invalidate (fun _ => rfl) value
  unfold lookupText
  rw [hvalue, hvalue, hvalue, a.attributes_invalidate]

/-- The claim maps that are written are the same. -/
theorem fieldMaps_invalidate (a : Authorization) (value : String) :
    (a.invalidate value).fieldMaps = a.fieldMaps := by
  have hslot : ∀ slot, (a.invalidate value).slotMaps slot = a.slotMaps slot := by
    intro slot
    unfold slotMaps
    rcases a.tokens_invalidate_cases value slot with hsame | ⟨t, ht, _, hset⟩
    · rw [hsame]
    · rw [ht, hset]
      rfl
  unfold fieldMaps
  rw [a.attributes_invalidate, hslot, hslot, hslot, hslot]

theorem faultOf?_toRow_invalidate (a : Authorization) (value : String) :
    faultOf? (a.invalidate value).toRow = faultOf? a.toRow := by
  rw [faultOf?_toRow_eq, faultOf?_toRow_eq, a.fieldMaps_invalidate]

end Authorization

/-! ## Rows found alike -/

/-- A row that every lookup selects where it selects another, and that is loaded under the same id
or fails to be for the same reason. -/
structure Row.FoundAlike (directory : Directory) (row again : Row) : Prop where
  id : again.id = row.id
  matchesHint : ∀ text hint, again.matchesHint text hint = row.matchesHint text hint
  loaded : Authorization.id <$> (again.load directory).outcome =
    Authorization.id <$> (row.load directory).outcome

theorem Row.foundAlike_refl (directory : Directory) (row : Row) : row.FoundAlike directory row :=
  ⟨rfl, fun _ _ => rfl, rfl⟩

theorem Row.id_outcome_load {a : Authorization} {row : Row} (h : a.WrittenAs row)
    (ha : a.WellFormed) (directory : Directory) :
    Authorization.id <$> (row.load directory).outcome =
      match directory.find? a.registeredClientId with
      | none => .error (.failure (.unresolvedClient a.registeredClientId))
      | some _ => .ok a.id := by
  rw [Row.outcome_load h ha.keysOnce, Authorization.brokenRule?_eq_none_iff.mpr ha.valid.normal]
  cases directory.find? a.registeredClientId <;> rfl

theorem Row.foundAlike_invalidate {a : Authorization} (ha : a.WellFormed) {value : String}
    {row again : Row} (h : a.WrittenAs row) (hagain : (a.invalidate value).WrittenAs again)
    (directory : Directory) : row.FoundAlike directory again where
  id := by rw [h.id, hagain.id, a.id_invalidate]
  matchesHint text hint := by
    rw [Bool.eq_iff_iff, h.matchesHint_iff, hagain.matchesHint_iff, a.lookupText_invalidate]
  loaded := by
    rw [Row.id_outcome_load h ha, Row.id_outcome_load hagain (ha.invalidate value),
      a.registeredClientId_invalidate, a.id_invalidate]

namespace Store

variable {directory : Directory}

theorem forall₂_putRow_putRow {R : Row → Row → Prop} (hrefl : ∀ r, R r r) {row again : Row}
    (hid : again.id = row.id) (hR : R row again) (rows : List Row) :
    List.Forall₂ R (putRow row rows) (putRow again rows) := by
  induction rows with
  | nil => exact .cons hR .nil
  | cons r rest ih =>
    rw [putRow, putRow, hid]
    split
    · exact .cons hR (List.forall₂_same.mpr fun r _ => hrefl r)
    · exact .cons (hrefl r) ih

theorem forall₂_selected {s s' : Store}
    (h : List.Forall₂ (Row.FoundAlike directory) s.rows s'.rows) (text : String)
    (hints : List Hint) :
    List.Forall₂ (Row.FoundAlike directory) (s.selected text hints) (s'.selected text hints) := by
  refine List.rel_filter (fun row again halike => ?_) h
  show hints.any (row.matchesHint text) = true ↔ hints.any (again.matchesHint text) = true
  rw [funext (halike.matchesHint text)]

theorem ids_eq_of_forall₂ {rows rows' : List Row}
    (h : List.Forall₂ (Row.FoundAlike directory) rows rows') :
    rows'.map (·.id) = rows.map (·.id) := by
  induction h with
  | nil => rfl
  | cons hrow _ ih => rw [List.map_cons, List.map_cons, hrow.id, ih]

theorem id_outcome_loadOnly {rows rows' : List Row}
    (h : List.Forall₂ (Row.FoundAlike directory) rows rows') :
    Option.map Authorization.id <$> (loadOnly directory rows').outcome =
      Option.map Authorization.id <$> (loadOnly directory rows).outcome := by
  have hsome : ∀ outcome : Except Fault Authorization,
      Option.map Authorization.id <$> some <$> outcome = some <$> Authorization.id <$> outcome := by
    rintro (_ | _) <;> rfl
  cases h with
  | nil => rfl
  | cons hfirst hrest =>
    cases hrest with
    | nil =>
      rw [loadOnly, loadOnly, Traced.outcome_map, Traced.outcome_map, hsome, hsome, hfirst.loaded]
    | cons hsecond _ => rw [loadOnly, loadOnly, hfirst.id, hsecond.id]

theorem id_outcome_findByToken {s s' : Store}
    (h : List.Forall₂ (Row.FoundAlike directory) s.rows s'.rows) (text : String)
    (hint : Option String) :
    Option.map Authorization.id <$> (s'.findByToken directory text hint).outcome =
      Option.map Authorization.id <$> (s.findByToken directory text hint).outcome := by
  cases htext : Text.isBlankText text with
  | true =>
    rw [outcome_findByToken_of_isBlank _ _ htext, outcome_findByToken_of_isBlank _ _ htext]
  | false =>
    cases hhints : searched? hint with
    | none =>
      rw [outcome_findByToken_of_not_searched _ _ htext hhints,
        outcome_findByToken_of_not_searched _ _ htext hhints]
    | some hints =>
      rw [outcome_findByToken _ _ htext hhints, outcome_findByToken _ _ htext hhints]
      exact id_outcome_loadOnly (forall₂_selected h text hints)

end Store

/-! ## Saving -/

/-- After saving an authorization with a value invalidated the rows are found as after saving the
authorization itself.  If the one is not saved, neither is the other. -/
theorem Service.forall₂_rows_save_invalidate (s : Service) {a : Authorization} (ha : a.WellFormed)
    (value : String) (directory : Directory) :
    List.Forall₂ (Row.FoundAlike directory) (s.perform (.save (some a))).1.store.rows
      (s.perform (.save (some (a.invalidate value)))).1.store.rows := by
  have hrefl := Row.foundAlike_refl directory
  have hkept : ∀ b fault, (s.perform (.save (some b))).2.outcome = .error fault →
      (s.perform (.save (some b))).1.store.rows = s.store.rows := fun b fault h => by
    rw [s.perform_save_of_error h]
  cases hblank : Text.isBlankText a.id with
  | true =>
    have hblank' : Text.isBlankText (a.invalidate value).id = true := by rwa [a.id_invalidate]
    rw [hkept a _ (s.outcome_save_of_blank hblank), hkept _ _ (s.outcome_save_of_blank hblank')]
    exact List.forall₂_same.mpr fun r _ => hrefl r
  | false =>
    have hblank' : Text.isBlankText (a.invalidate value).id = false := by rwa [a.id_invalidate]
    -- The same claim maps are written, so either both rows are made or neither is.
    have hfaults := a.faultOf?_toRow_invalidate value
    cases hrow : a.toRow with
    | error fault =>
      cases hagain : (a.invalidate value).toRow with
      | error fault' =>
        rw [hkept a _ ((s.save_eq_error_iff hblank).mpr hrow),
          hkept _ _ ((s.save_eq_error_iff hblank').mpr hagain)]
        exact List.forall₂_same.mpr fun r _ => hrefl r
      | ok again =>
        rw [hrow, hagain] at hfaults
        cases hfaults
    | ok row =>
      cases hagain : (a.invalidate value).toRow with
      | error fault' =>
        rw [hrow, hagain] at hfaults
        cases hfaults
      | ok again =>
        have halike := Row.foundAlike_invalidate ha (Authorization.writtenAs_of_toRow hrow)
          (Authorization.writtenAs_of_toRow hagain) directory
        rw [s.store_perform_save (Store.save_eq_ok_iff.mpr ⟨a, row, rfl, hblank, hrow, rfl⟩),
          s.store_perform_save (Store.save_eq_ok_iff.mpr ⟨_, again, rfl, hblank', hagain, rfl⟩)]
        exact Store.forall₂_putRow_putRow hrefl halike.id halike s.store.rows

/-! ## Laws -/

/-- Invalidating values is idempotent and commutes.  It sets the flag of the first token of the
value, if there is one, and leaves all else; what was well formed stays so.  The verdict about every
other value is the same, and that about the value itself is inactive at every instant and tells the
client and the times of the token.  Saved, the authorization is found by the same texts under the
same id. -/
theorem invalidate_laws {a : Authorization} (ha : a.WellFormed) (value : String) :
    (a.invalidate value).invalidate value = a.invalidate value ∧
    (∀ other, (a.invalidate value).invalidate other = (a.invalidate other).invalidate value) ∧
    (∀ slot t, a.HeldFirst value slot t →
      a.invalidate value = a.withToken slot (some { t with invalidated := true })) ∧
    ((∀ slot t, a.tokens slot = some t → t.value ≠ value) → a.invalidate value = a) ∧
    (a.invalidate value).WellFormed ∧
    (∀ other, other ≠ value → ∀ directory clock requester,
      introspect directory clock requester other (some (a.invalidate value)) =
        introspect directory clock requester other (some a)) ∧
    (∀ slot t directory clientId clock now requester, a.HeldFirst value slot t →
      a.clientId directory = .ok clientId → clock.toUtc? = some now →
      (introspect directory clock requester value (some (a.invalidate value))).outcome =
        .ok (.basic false clientId t)) ∧
    (∀ (s : Service) text hints,
      ((s.perform (.save (some (a.invalidate value)))).1.store.selected text hints).map (·.id) =
        ((s.perform (.save (some a))).1.store.selected text hints).map (·.id)) ∧
    ∀ (s : Service) directory text hint,
      Option.map Authorization.id <$> ((s.perform
          (.save (some (a.invalidate value)))).1.store.findByToken directory text hint).outcome =
        Option.map Authorization.id <$> ((s.perform
          (.save (some a))).1.store.findByToken directory text hint).outcome := by
  refine ⟨a.invalidate_invalidate value, a.invalidate_comm value, fun slot t h => h.invalidate_eq,
    fun h => ?_, ha.invalidate value, fun other h directory clock requester => ?_,
    fun slot t directory clientId clock now requester h hclient hnow => ?_,
    fun s text hints => ?_, fun s directory text hint => ?_⟩
  · exact Authorization.invalidate_of_find?_eq_none (Authorization.find?_eq_none_iff.mpr h)
  · exact introspect_invalidate_of_ne h a directory clock requester
  · exact outcome_introspect_invalidate h hclient hnow requester
  · have hrows := s.forall₂_rows_save_invalidate ha value s.directory
    exact Store.ids_eq_of_forall₂ (Store.forall₂_selected hrows text hints)
  · exact Store.id_outcome_findByToken (s.forall₂_rows_save_invalidate ha value directory) text hint

/-- The sample's access token, invalidated, is inactive at the moment it was issued, and its refresh
token is judged as before; saved where its client is registered, the sample is found by the value of
either. -/
theorem invalidate_laws_sample :
    (introspect (some (.ofList [sampleClient])) (.ofUtc ⟨0, by decide⟩) none "at-1"
        (some (sampleAuthorization.invalidate "at-1"))).outcome =
      .ok (.basic false "client-1" sampleToken) ∧
    introspect (some (.ofList [sampleClient])) (.ofUtc ⟨0, by decide⟩) none "rt-1"
        (some (sampleAuthorization.invalidate "at-1")) =
      introspect (some (.ofList [sampleClient])) (.ofUtc ⟨0, by decide⟩) none "rt-1"
        (some sampleAuthorization) ∧
    (((openService.perform (.save (some (sampleAuthorization.invalidate "at-1")))).1.store.selected
        "at-1" [.access]).map (·.id)) =
      (((openService.perform (.save (some sampleAuthorization))).1.store.selected
        "at-1" [.access]).map (·.id)) := by
  obtain ⟨_, _, _, _, _, hothers, hinactive, hselected, _⟩ :=
    invalidate_laws sampleAuthorization_wellFormed "at-1"
  have hjudged := hinactive .access sampleToken (some (.ofList [sampleClient])) "client-1"
    (.ofUtc ⟨0, by decide⟩) _ none sampleAuthorization_heldFirst rfl (Timestamp.toUtc?_ofUtc _)
  exact ⟨hjudged, hothers "rt-1" (by decide) _ _ _, hselected openService _ _⟩

/-- It is not so that the verdict about the value is inactive whatever a clock shows.  There is none
at the start of year 1 by a clock that is an hour ahead. -/
theorem invalidate_laws_not_any_clock :
    ¬∀ (a : Authorization) (value : String), a.WellFormed →
      ∀ slot t directory clientId clock requester, a.HeldFirst value slot t →
        a.clientId directory = .ok clientId →
        (introspect directory clock requester value (some (a.invalidate value))).outcome =
          .ok (.basic false clientId t) := by
  intro hall
  have hjudged := hall lastingAuthorization "rt-1" lastingAuthorization_wellFormed .refresh
    lastingToken none "c1" ⟨⟨0, by decide⟩, some ⟨3600000000, by decide, by decide⟩⟩ none
    lastingAuthorization_heldFirst rfl
  cases hjudged

end GrantKeeper
