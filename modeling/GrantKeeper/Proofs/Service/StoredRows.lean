/-
The rows of the table after any run of requests.

A row has the form of the authorization saved last under its id (`Row.HasFormOf`), whatever was in
its place before: a slot without a token has no column left, and a slot with one has all that its
rules ask for.  What failed leaves no trace.
-/
import GrantKeeper.Proofs.Claim.Codec
import GrantKeeper.Proofs.Service.Refinement

namespace GrantKeeper

open Service

/-- The normal form of a token's flag is the flag itself, under a key that its metadata leaves to
the store. -/
theorem Token.get?_invalidatedKey_normal (t : Token) :
    t.foldedMetadata.normal.get? invalidatedKey =
      if t.invalidated then some (.bool true) else none := by
  rw [Claims.get?_normal, foldedMetadata_eq, Claims.get?_append,
    Claims.get?_eq_none t.not_has_invalidatedKey, Option.none_or]
  unfold flagEntry
  cases t.invalidated <;> rfl

/-! ## Forms of rows -/

namespace Row

/-- Every column of a slot is null, the type and scopes of the access slot among them. -/
def Vacant (row : Row) (slot : Slot) : Prop :=
  ∀ column ∈ Column.ofSlot slot, row.get column = .null

/-- The columns of a slot hold a token: its value in UTF-8, and metadata that is read strictly, in
which the reserved key says that the token was invalidated or is missing. A slot that requires times
has both, in order. -/
structure Filled (row : Row) (slot : Slot) (t : Token) : Prop where
  value_ne : t.value ≠ ""
  value : ∃ data, (row.tokens slot).value = some data ∧ String.fromUTF8? data = some t.value
  metadata : ∃ text claims, (row.tokens slot).metadata = some text ∧
    (∀ field, Claims.decodeStrict (some text) field = .ok claims) ∧
    claims.get? invalidatedKey = if t.invalidated then some (.bool true) else none
  times : slot.requiresExpiry = true → ∃ issued expires,
    (row.tokens slot).issuedAt = some issued ∧ (row.tokens slot).expiresAt = some expires ∧
      issued ≤ expires

/-- A row has the form that saving an authorization gives it. The scopes of an access token stand in
the order of their characters, and the state is the text of the attribute where that is not
blank. -/
structure HasFormOf (row : Row) (a : Authorization) : Prop where
  id : row.id = a.id
  id_not_blank : Text.isBlankText row.id = false
  slots : ∀ slot,
    match a.tokens slot with
    | none => row.Vacant slot
    | some t => row.Filled slot t
  scopes : ∀ t, a.tokens .access = some t → ∃ scopes : List String,
    scopes.Pairwise (· < ·) ∧ (∀ scope, scope ∈ scopes ↔ scope ∈ t.scopes) ∧
      row.accessScopes = some (",".intercalate scopes)
  state : ∀ text, row.state = some text ↔ Text.isBlankText text = false ∧
    ∃ value, a.attributes.get? "state" = some value ∧ value ≠ .null ∧ value.toText = text

end Row

namespace Authorization.WrittenAs

variable {a : Authorization} {row : Row} (h : a.WrittenAs row)

include h

theorem vacant {slot : Slot} (hnone : a.tokens slot = none) : row.Vacant slot := by
  have hcolumns := h.columns_of_none hnone
  have hown : ∀ column ∈ [.value slot, .issuedAt slot, .expiresAt slot, .metadata slot],
      row.get column = .null := by
    simp only [List.forall_mem_cons, Row.get, hcolumns]
    exact ⟨rfl, rfl, rfl, rfl, nofun⟩
  intro column hcolumn
  rcases List.mem_append.mp hcolumn with hmem | hmem
  · exact hown column hmem
  · split at hmem
    · next haccess =>
      -- The access slot has two columns more, and neither is written without a token.
      rw [haccess] at hnone
      have hrest : ∀ column ∈ [Column.accessType, .accessScopes], row.get column = .null := by
        simp only [List.forall_mem_cons, Row.get, h.accessType, h.accessScopes, hnone]
        exact ⟨rfl, rfl, nofun⟩
      exact hrest column hmem
    · cases hmem

theorem filled (ha : a.WellFormed) {slot : Slot} {t : Token} (ht : a.tokens slot = some t) :
    row.Filled slot t := by
  obtain ⟨text, hencode, hcolumns⟩ := h.columns_of_some ht
  have hkeys := Token.keysOnce_foldedMetadata (ha.keysOnce.tokens slot t ht)
  refine ⟨t.value_ne, ⟨t.value.toUTF8, by rw [hcolumns], fromUTF8?_toUTF8 _⟩,
    ⟨text, t.foldedMetadata.normal, by rw [hcolumns], fun field => ?_, ?_⟩, fun hrequired => ?_⟩
  · exact Claims.decodeStrict_of_encode hkeys hencode field
  · exact t.get?_invalidatedKey_normal
  · obtain ⟨hissued, hexpires⟩ := (slotRule?_eq_none_iff.mp (ha.valid slot t ht)).1 hrequired
    obtain ⟨issued, hissued⟩ := Option.ne_none_iff_exists'.mp hissued
    obtain ⟨expires, hexpires⟩ := Option.ne_none_iff_exists'.mp hexpires
    rw [hcolumns]
    exact ⟨issued, expires, hissued, hexpires, t.timesOrdered issued hissued expires hexpires⟩

theorem state_iff (text : String) :
    row.state = some text ↔ Text.isBlankText text = false ∧
      ∃ value, a.attributes.get? "state" = some value ∧ value ≠ .null ∧ value.toText = text := by
  rw [h.state, a.stateColumn_eq, lookupText_state_iff]

theorem hasFormOf (ha : a.WellFormed) (hid : Text.isBlankText a.id = false) : row.HasFormOf a where
  id := h.id
  id_not_blank := by rwa [h.id]
  slots slot := by
    cases hslot : a.tokens slot with
    | none => exact h.vacant hslot
    | some t => exact h.filled ha hslot
  scopes t ht := by
    refine ⟨t.scopes.toList, t.scopes.sorted, fun _ => Iff.rfl, ?_⟩
    rw [h.accessScopes, ht, Option.map_some, ScopeSet.toColumn_eq_intercalate]
  state := h.state_iff

end Authorization.WrittenAs

/-! ## Runs -/

/-- After any run of requests from nothing each id stands once, and each row has the form of the
authorization saved last under its id and not removed since. -/
theorem rows_run {requests : List Request}
    (hsaved : ∀ a, .save (some a) ∈ requests → a.WellFormed) :
    ((empty.run requests).store.rows.map (·.id)).Nodup ∧
      ∀ row ∈ (empty.run requests).store.rows,
        ∃ a, lastSaved requests row.id = some a ∧ row.HasFormOf a := by
  have hstore := represents_run requests
  refine ⟨(empty.run requests).store.ids_nodup, fun row hrow => ?_⟩
  have hfind := Store.find?_of_mem hrow
  cases ha : lastSaved requests row.id with
  | none =>
    rw [hstore.absent row.id ha] at hfind
    cases hfind
  | some a =>
    obtain ⟨hid, found, hfound, hwritten⟩ := hstore.written row.id a ha
    rw [hfind] at hfound
    cases hfound
    have hblank : Text.isBlankText a.id = false := by
      rw [hid]
      exact not_blank_of_lastSaved ha
    exact ⟨a, rfl, hwritten.hasFormOf (lastSaved_forall hsaved row.id a ha) hblank⟩

/-- The sample is saved twice, the second time with its access token invalidated, and a request
fails.  The one row that is left has both tokens, the flag of one and the scopes in order, and
nothing in the slots of the others. -/
theorem rows_run_sample :
    ∃ row ∈ (empty.run sampleRequests).store.rows,
      row.Vacant .code ∧ row.Vacant .id ∧ row.Filled .access sampleToken.invalidate ∧
        row.Filled .refresh sampleRefreshToken ∧ row.state = some "xyz" := by
  obtain ⟨_, hrows⟩ := rows_run sampleRequests_wellFormed
  obtain ⟨_, row, hfind, _⟩ := (represents_run sampleRequests).written "a1" _ rfl
  obtain ⟨hmem, hid⟩ := Store.id_of_find? hfind
  obtain ⟨a, ha, hform⟩ := hrows row hmem
  rw [hid] at ha
  cases ha
  refine ⟨row, hmem, hform.slots .code, hform.slots .id, hform.slots .access, hform.slots .refresh,
    (hform.state "xyz").mpr ⟨by decide, .text "xyz", rfl, nofun, rfl⟩⟩

end GrantKeeper
