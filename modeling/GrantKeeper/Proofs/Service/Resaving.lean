/-
Saving again what was found.

What a lookup finds is in normal form, and the normal form of that is itself
(`Authorization.normal_normal`).  So a row that is written over with what was loaded from it is
loaded as before, and every other column that lookups search is the same.  The state column is not:
it has the text of the attribute as it was given, and the text of a set or a timestamp is not that
of its normal form.  After saving again an authorization of such a state, a lookup for the one text
or the other may answer differently, and no other lookup does (`lookups_resaved`).
-/
import Mathlib.Data.List.Forall2
import GrantKeeper.Proofs.Claim.Codec
import GrantKeeper.Proofs.Grant.AccessFields
import GrantKeeper.Proofs.Service.Scopes

namespace GrantKeeper

open Service

/-! ## The normal form of a normal form -/

theorem normalTokenType_normalTokenType (type : String) :
    normalTokenType (normalTokenType type) = normalTokenType type := by
  have hbearer : "Bearer".toLower = "bearer" :=
    String.toList_inj.mp (String.toList_map.trans (by decide))
  by_cases h : type.toLower = "bearer"
  · have htype : normalTokenType type = "Bearer" := if_pos h
    rw [htype]
    exact if_pos hbearer
  · have htype : normalTokenType type = type := if_neg h
    rw [htype, htype]

theorem Token.isNormalFormOf_self (t : Token) (slot : Slot) :
    Token.IsNormalFormOf slot (t.normalIn slot) (t.normalIn slot) where
  value := rfl
  issuedAt := rfl
  expiresAt := rfl
  invalidated := rfl
  metadata := (Claims.normal_normal t.metadata).symm
  claims := by
    show t.claims.map Claims.normal = (t.claims.map Claims.normal).map Claims.normal
    rw [Option.map_map]
    exact Option.map_congr fun claims _ => (Claims.normal_normal claims).symm
  tokenType hslot := by
    have htype : (t.normalIn slot).tokenType = t.tokenType.map normalTokenType := if_pos hslot
    rw [htype, Token.typeLeft_iff, Option.map_map]
    exact Option.map_congr fun type _ => (normalTokenType_normalTokenType type).symm
  noType hslot := if_neg hslot
  scopes := by
    have hscopes : (t.normalIn slot).scopes = ((t.normalIn slot).normalIn slot).scopes := by
      show (if slot = .access then t.scopes.normal else .empty) =
        if slot = .access then
          (if slot = .access then t.scopes.normal else .empty).normal else .empty
      split
      · exact t.scopes.normal_normal.symm
      · rfl
    intro scope
    have hnormal := ((t.normalIn slot).isNormalFormOf_normalIn slot).scopes scope
    rwa [← hscopes] at hnormal

theorem Authorization.normal_normal (a : Authorization) : a.normal.normal = a.normal := by
  refine (isNormalFormOf_iff.mp ⟨rfl, rfl, rfl, rfl, ?_, fun _ h => h, fun slot t ht => ?_⟩).symm
  · exact (Claims.normal_normal a.attributes).symm
  · obtain ⟨original, _, rfl⟩ := tokens_normal_eq_some ht
    exact ⟨_, ht, original.isNormalFormOf_self slot⟩

/-! ## Written again -/

namespace Authorization

variable {a : Authorization} {row : Row}

/-- The columns of the slots are what they were. -/
theorem WrittenAs.slotColumns_normal (h : a.WrittenAs row) (slot : Slot) :
    a.normal.slotColumns slot = .ok (row.tokens slot) := by
  unfold slotColumns
  rw [tokens_normal]
  cases hslot : a.tokens slot with
  | none =>
    rw [h.columns_of_none hslot]
    rfl
  | some t =>
    obtain ⟨metadata, hencode, hcolumns⟩ := h.columns_of_some hslot
    rw [hcolumns, Option.map_some]
    dsimp only
    rw [Token.columns, ← t.normal_foldedMetadata slot, Claims.encode_normal hencode]
    rfl

theorem WrittenAs.exists_toRow_normal (h : a.WrittenAs row) :
    ∃ again, a.normal.toRow = .ok again := by
  obtain ⟨text, _, hencode⟩ := h.attributes
  have hattributes : a.normal.attributes.encode Column.attributes.name = .ok text :=
    Claims.encode_normal hencode _
  have htokens : Slot.traverse a.normal.slotColumns = .ok row.tokens :=
    Slot.traverse_eq_ok_iff.mpr h.slotColumns_normal
  rw [toRow, hattributes, htokens]
  exact ⟨_, rfl⟩

/-- In every field but the state the texts to look for are what they were. -/
theorem lookupText_normal (a : Authorization) {name : String} (h : name ≠ "state") :
    a.normal.lookupText name = a.lookupText name := by
  have hvalue : ∀ slot, (a.normal.tokens slot).map (·.value) = (a.tokens slot).map (·.value) :=
    fun slot => by
      rw [tokens_normal, Option.map_map]
      rfl
  unfold lookupText
  rw [if_neg h, if_neg h, hvalue, hvalue, hvalue]

/-- So is that of a state in which no timestamp and no set is found. -/
theorem lookupText_state_normal
    (h : ∀ value, a.attributes.get? "state" = some value →
      ∀ x : Claim, x.Within value → x.Plain) :
    a.normal.lookupText "state" = a.lookupText "state" := by
  have hget : a.normal.attributes.get? "state" = a.attributes.get? "state" := by
    show a.attributes.normal.get? "state" = _
    rw [Claims.get?_normal]
    cases hvalue : a.attributes.get? "state" with
    | none => rfl
    | some value => rw [Option.map_some, Claim.normal_eq_self (h value hvalue)]
  rw [lookupText, lookupText, if_pos rfl, if_pos rfl, hget]

/-- Whether an authorization has a text where a hint has it searched for. -/
def Owns (a : Authorization) (text : String) (hint : Option String) : Prop :=
  ∃ name ∈ searchedNames hint, a.lookupText name = some text

/-- Only by the state can the normal form own a text that the authorization does not, or the other
way round. -/
theorem owns_normal_iff {a : Authorization} {text : String} {hint : Option String}
    (hstate : "state" ∈ searchedNames hint →
      (a.lookupText "state" = some text ↔ a.normal.lookupText "state" = some text)) :
    a.Owns text hint ↔ a.normal.Owns text hint := by
  refine exists_congr fun name => and_congr_right fun hname => ?_
  by_cases h : name = "state"
  · subst h
    exact hstate hname
  · rw [a.lookupText_normal h]

theorem WrittenAs.any_matchesHint_iff (h : a.WrittenAs row) {hint : Option String}
    {hints : List Hint} (hhints : Store.searched? hint = some hints) (text : String) :
    hints.any (row.matchesHint text) = true ↔ a.Owns text hint := by
  rw [Owns, ← Store.searchedNames_of_searched? hhints, List.any_eq_true]
  simp only [List.mem_map, exists_exists_and_eq_and, h.matchesHint_iff]

end Authorization

/-! ## A row in the place of another -/

/-- A row that is loaded as another is, or fails to be for the same reason. -/
structure Row.LoadedAlike (directory : Directory) (row again : Row) : Prop where
  id : again.id = row.id
  outcome : (again.load directory).outcome = (row.load directory).outcome

theorem Row.loadedAlike_refl (directory : Directory) (row : Row) : row.LoadedAlike directory row :=
  ⟨rfl, rfl⟩

/-- The normal form of what was written is loaded alike. -/
theorem Row.loadedAlike_of_writtenAs {a : Authorization} {row again : Row} (h : a.WrittenAs row)
    (hagain : a.normal.WrittenAs again) (hkeys : a.KeysOnce) (directory : Directory) :
    row.LoadedAlike directory again where
  id := hagain.id.trans h.id.symm
  outcome := by
    rw [Row.outcome_load hagain hkeys.normal, Row.outcome_load h hkeys, a.normal_normal]
    rfl

namespace Store

variable {s : Store} {row again : Row} {directory : Directory}

theorem forall₂_putRow {R : Row → Row → Prop} (hrefl : ∀ r, R r r) (hR : R row again)
    {rows : List Row} (h : rows.find? (·.id == again.id) = some row) :
    List.Forall₂ R rows (putRow again rows) := by
  induction rows with
  | nil => cases h
  | cons r rest ih =>
    rw [putRow]
    split
    · next same =>
      rw [List.find?_cons_of_pos (by simpa using same)] at h
      cases h
      exact .cons hR (List.forall₂_same.mpr fun r _ => hrefl r)
    · next differ =>
      rw [List.find?_cons_of_neg (by simpa using differ)] at h
      exact .cons (hrefl r) (ih h)

theorem outcome_loadOnly_congr {rows rows' : List Row}
    (h : List.Forall₂ (Row.LoadedAlike directory) rows rows') :
    (loadOnly directory rows').outcome = (loadOnly directory rows).outcome := by
  cases h with
  | nil => rfl
  | cons hfirst hrest =>
    cases hrest with
    | nil => rw [loadOnly, loadOnly, Traced.outcome_map, Traced.outcome_map, hfirst.outcome]
    | cons hsecond _ =>
      rw [loadOnly, loadOnly, hfirst.id, hsecond.id]

/-- With a row in the place of one that is loaded alike, every id is looked up alike. -/
theorem outcome_findById_put (hrow : s.find? again.id = some row)
    (halike : row.LoadedAlike directory again) (id : String) :
    ((s.put again).findById directory id).outcome = (s.findById directory id).outcome := by
  rw [findById, findById, Traced.outcome_bind, Traced.outcome_bind]
  refine congrArg _ (funext fun _ => ?_)
  by_cases hid : id = again.id
  · subst hid
    rw [find?_put_self, hrow]
    exact outcome_loadOnly_congr (.cons halike .nil)
  · rw [s.find?_put_of_ne hid]

/-- And so is every text that the one row has, where it is searched for, if the other has it. -/
theorem outcome_findByToken_put (hrow : s.find? again.id = some row)
    (halike : row.LoadedAlike directory again) {text : String} {hint : Option String}
    (hmatch : ∀ hints, searched? hint = some hints →
      (hints.any (row.matchesHint text) = true ↔ hints.any (again.matchesHint text) = true)) :
    ((s.put again).findByToken directory text hint).outcome =
      (s.findByToken directory text hint).outcome := by
  rw [findByToken, findByToken, Traced.outcome_bind, Traced.outcome_bind]
  refine congrArg _ (funext fun _ => ?_)
  cases hhints : searched? hint with
  | none => rfl
  | some hints =>
    have hrows : List.Forall₂ (fun r r' => r.LoadedAlike directory r' ∧
        (hints.any (r.matchesHint text) = true ↔ hints.any (r'.matchesHint text) = true))
        s.rows (putRow again s.rows) :=
      forall₂_putRow (fun r => ⟨r.loadedAlike_refl directory, Iff.rfl⟩)
        ⟨halike, hmatch hints hhints⟩ hrow
    have hselected := List.rel_filter (fun _ _ h => h.2) hrows
    exact outcome_loadOnly_congr (hselected.imp fun _ _ h => h.1)

/-- The normal form of what is held can be saved again, and takes the place of its row. -/
theorem Represents.exists_resaved {held : Holdings} (h : s.Represents held) {id : String}
    {a : Authorization} (ha : held id = some a) (hid : Text.isBlankText id = false) :
    ∃ row again, s.find? again.id = some row ∧ a.WrittenAs row ∧ a.normal.WrittenAs again ∧
      (s.save (some a.normal)).outcome = .ok (s.put again) := by
  obtain ⟨hsame, row, hrow, hwritten⟩ := h.written id a ha
  obtain ⟨again, hagain⟩ := hwritten.exists_toRow_normal
  have hrewritten := Authorization.writtenAs_of_toRow hagain
  have hblank : Text.isBlankText a.normal.id = false := by
    show Text.isBlankText a.id = false
    rw [hsame]
    exact hid
  refine ⟨row, again, ?_, hwritten, hrewritten,
    save_eq_ok_iff.mpr ⟨a.normal, again, rfl, hblank, hagain, rfl⟩⟩
  rw [hrewritten.id]
  show s.find? a.id = some row
  rw [hsame]
  exact hrow

end Store

/-! ## Saving again -/

/-- Saving again what a lookup by id found succeeds and leaves every lookup by id as it was, and of
the lookups by token those for a text that the authorization owns as it was saved and as it was
found, or in neither form.  Only where the state is searched and the text is that of one form and
not of the other can it be otherwise, and a state has one text in both unless a set or a timestamp
is found in it. -/
theorem lookups_resaved {requests : List Request}
    (hsaved : ∀ a, .save (some a) ∈ requests → a.WellFormed) {id : String} {b : Authorization}
    (hfound : ((empty.run requests).store.findById (empty.run requests).directory id).outcome =
      .ok (some b)) :
    ((empty.run requests).perform (.save (some b))).2.outcome = .ok .done ∧
    ∃ a, lastSaved requests id = some a ∧
      (∀ directory other,
        (((empty.run requests).perform (.save (some b))).1.store.findById directory other).outcome =
          ((empty.run requests).store.findById directory other).outcome) ∧
      (∀ directory text hint, (a.Owns text hint ↔ b.Owns text hint) →
        (((empty.run requests).perform (.save (some b))).1.store.findByToken directory text
            hint).outcome =
          ((empty.run requests).store.findByToken directory text hint).outcome) ∧
      (∀ text hint, ("state" ∈ searchedNames hint →
          (a.lookupText "state" = some text ↔ b.lookupText "state" = some text)) →
        (a.Owns text hint ↔ b.Owns text hint)) ∧
      ((∀ value, a.attributes.get? "state" = some value →
          ∀ x : Claim, x.Within value → x.Plain) →
        b.lookupText "state" = a.lookupText "state") := by
  have hstore := represents_run requests
  have hheld := lastSaved_forall hsaved
  obtain ⟨a, ha, rfl⟩ :=
    hstore.findById_eq_some (fun i c hc => (hheld i c hc).keysOnce) hfound
  have hkeys := (hheld id a ha).keysOnce
  obtain ⟨row, again, hrow, hwritten, hrewritten, hsave⟩ :=
    hstore.exists_resaved ha (not_blank_of_lastSaved ha)
  have hput := (empty.run requests).store_perform_save hsave
  have halike := Row.loadedAlike_of_writtenAs hwritten hrewritten hkeys
  refine ⟨?_, a, ha, fun directory other => ?_, fun directory text hint howns => ?_,
    fun text hint => Authorization.owns_normal_iff, Authorization.lookupText_state_normal⟩
  · rw [perform_save, Traced.outcome_map, hsave]
    rfl
  · rw [hput]
    exact Store.outcome_findById_put hrow (halike directory) other
  · rw [hput]
    refine Store.outcome_findByToken_put hrow (halike directory) fun hints hhints => ?_
    rw [hwritten.any_matchesHint_iff hhints, hrewritten.any_matchesHint_iff hhints]
    exact howns

/-- What the sample is found as, with its access token invalidated. -/
theorem findById_sampleRequests :
    ((empty.run sampleRequests).store.findById (empty.run sampleRequests).directory "a1").outcome =
      .ok (some (sampleAuthorization.invalidate "at-1").normal) := by
  have hid : Text.isBlankText "a1" = false := by decide
  have hclient : (empty.run sampleRequests).directory.Registered "c1" := rfl
  obtain ⟨row, hwritten, hfound⟩ := (represents_run sampleRequests).findById_of_some
    (empty.run sampleRequests).directory hid rfl
  have hload := Row.load_of_registered hwritten
    (lastSaved_forall sampleRequests_wellFormed "a1" _ rfl) hclient
  rw [hfound, hload]
  rfl

/-- Its state is a text, and a lookup by that answers as before. -/
theorem lookups_resaved_sample :
    (((empty.run sampleRequests).perform
        (.save (some (sampleAuthorization.invalidate "at-1").normal))).1.store.findByToken
        (empty.run sampleRequests).directory "xyz" none).outcome =
      ((empty.run sampleRequests).store.findByToken (empty.run sampleRequests).directory "xyz"
        none).outcome := by
  obtain ⟨_, a, ha, _, hsame, howns, hplain⟩ :=
    lookups_resaved sampleRequests_wellFormed findById_sampleRequests
  cases ha
  have hstate := hplain fun value hvalue x hx => by
    cases hvalue
    cases hx with
    | self => exact trivial
    | part hy _ => cases hy
  exact hsame _ _ _ (howns "xyz" none fun _ => by rw [hstate])

/-- An authorization without tokens, whose state may be any value. -/
def statefulAuthorization (state : Claim) : Authorization :=
  { sampleAuthorization with
    attributes := [("state", state)]
    tokens := Slot.table none none none none }

theorem normal_statefulAuthorization (state : Claim) :
    (statefulAuthorization state).normal = statefulAuthorization state.normal := by
  have htokens : (statefulAuthorization state).normal.tokens =
      (statefulAuthorization state.normal).tokens := by
    funext slot
    cases slot <;> rfl
  show { statefulAuthorization state.normal with
    tokens := (statefulAuthorization state).normal.tokens } = _
  rw [htokens]

/-- A client is registered and an authorization saved whose state is the time of noon of a day. -/
def noonRequests : List Request :=
  [.register sampleClient,
    .save (some (statefulAuthorization (.time (.naive ⟨63902865600000000, by decide⟩))))]

theorem noonRequests_wellFormed : ∀ a, .save (some a) ∈ noonRequests → a.WellFormed :=
  forall_saved sampleClient
    ⟨Authorization.brokenRule?_eq_none_iff.mp rfl, Authorization.keysOnce_of_all rfl rfl⟩

/-- The authorization as it is found. -/
def noonAuthorization : Authorization :=
  statefulAuthorization (.text "2026-01-01T12:00:00")

theorem findById_noonRequests :
    ((empty.run noonRequests).store.findById (empty.run noonRequests).directory "a1").outcome =
      .ok (some noonAuthorization) := by
  have hclient : (empty.run noonRequests).directory.Registered "c1" := rfl
  have hid : Text.isBlankText "a1" = false := by decide
  obtain ⟨row, hwritten, hfound⟩ := (represents_run noonRequests).findById_of_some
    (empty.run noonRequests).directory hid rfl
  have hload := Row.load_of_registered hwritten
    (lastSaved_forall noonRequests_wellFormed "a1" _ rfl) hclient
  rw [hfound, hload, normal_statefulAuthorization]
  rfl

/-- It is not so that every lookup answers as before: a timestamp's text is no longer that of the
state. -/
theorem lookups_resaved_not_same :
    ¬∀ requests : List Request, (∀ a, .save (some a) ∈ requests → a.WellFormed) →
      ∀ id b, ((empty.run requests).store.findById (empty.run requests).directory id).outcome =
          .ok (some b) →
        ∀ text hint,
          (((empty.run requests).perform (.save (some b))).1.store.findByToken
              (empty.run requests).directory text hint).outcome =
            ((empty.run requests).store.findByToken (empty.run requests).directory text
              hint).outcome := by
  intro hsame
  have hafter : (((empty.run noonRequests).perform
      (.save (some noonAuthorization))).1.store.findByToken (empty.run noonRequests).directory
        "2026-01-01 12:00:00" (some "state")).outcome = .ok none := rfl
  obtain ⟨row, hrow⟩ : ∃ row, (empty.run noonRequests).store.selected "2026-01-01 12:00:00"
      [.state] = [row] := ⟨_, rfl⟩
  have hsearched : Store.searched? (some "state") = some [.state] := rfl
  have htext : Text.isBlankText "2026-01-01 12:00:00" = false := by decide
  have hnone : (Store.loadOnly (empty.run noonRequests).directory [row]).outcome = .ok none := by
    rw [← hrow, ← Store.outcome_findByToken _ _ htext hsearched, ← hafter]
    exact (hsame noonRequests noonRequests_wellFormed "a1" _ findById_noonRequests _ _).symm
  rw [Store.loadOnly, Traced.outcome_map] at hnone
  obtain ⟨_, _, hsome⟩ := Except.map_eq_ok hnone
  cases hsome

end GrantKeeper
