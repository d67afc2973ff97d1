/-
Rows that others wrote.

Nothing is known of such a row: a column may hold any text, bytes or time, or be null.  What a
lookup finds keeps the rules all the same (`found_sound`), for each of them is checked, or made to
hold, on the way from the row.  Where nothing is found the cause need not be one of the store's own
errors: a value that is not UTF-8 and a claim map with an integer that is too long end the load
before the rules are asked for (`findById_outcome`).
-/
import GrantKeeper.Proofs.Grant.AccessFields
import GrantKeeper.Proofs.Service.Hint
import GrantKeeper.Proofs.Store.Loading

namespace GrantKeeper

/-! ## Rules of what is found -/

/-- A token that keeps the rules of a slot, and whose type and scopes are spelled as columns give
them back. -/
structure Token.SoundIn (slot : Slot) (t : Token) : Prop where
  value : t.value ≠ ""
  timesOrdered : ∀ issued ∈ t.issuedAt, ∀ expires ∈ t.expiresAt, issued ≤ expires
  timesGiven : slot = .code ∨ slot = .access → t.issuedAt ≠ none ∧ t.expiresAt ≠ none
  accessFields : slot ≠ .access → t.tokenType = none ∧ t.scopes = .empty
  metadata : t.metadata.has "metadata.token.claims" = false ∧
    t.metadata.has "metadata.token.invalidated" = false
  scopes : ∀ scope ∈ t.scopes, ScopeSet.ColumnScope scope
  tokenType : ∀ type ∈ t.tokenType, Text.lower type = "bearer" → type = "Bearer"

/-- What may be loaded from a row: the client is registered, exactly the slots with a value are
filled, and the tokens, read from the columns of their slots, keep the rules. -/
structure Authorization.SoundFrom (directory : Directory) (row : Row) (a : Authorization) :
    Prop where
  registered : directory.Registered a.registeredClientId
  loadedFrom : a.LoadedFrom row
  filled_iff : ∀ slot, a.tokens slot ≠ none ↔ (row.tokens slot).value ≠ none
  tokens : ∀ slot t, a.tokens slot = some t → t.SoundIn slot

theorem Row.tokenType_eq_bearer {row : Row} {slot : Slot} {type : String}
    (h : row.tokenType slot = some type) (hlower : Text.lower type = "bearer") :
    type = "Bearer" := by
  unfold tokenType at h
  split at h
  · obtain ⟨stored, _, rfl⟩ := Option.map_eq_some_iff.mp h
    exact normalTokenType_eq_of_lower hlower
  · cases h

theorem Row.columnScope_of_mem_scopes {row : Row} {slot : Slot} {scope : String}
    (h : scope ∈ row.scopes slot) : ScopeSet.ColumnScope scope := by
  unfold scopes at h
  split at h
  · exact ScopeSet.columnScope_of_mem_ofColumn h
  · cases h

theorem Token.ReadFrom.soundIn {row : Row} {slot : Slot} {t : Token} (h : t.ReadFrom row slot)
    (hrule : Authorization.slotRule? slot t = none) : t.SoundIn slot where
  value := t.value_ne
  timesOrdered := t.timesOrdered
  timesGiven hslot := by
    refine (Authorization.slotRule?_eq_none_iff.mp hrule).1 ?_
    rcases hslot with rfl | rfl <;> rfl
  accessFields hne := by
    rw [h.tokenType, h.scopes, Row.tokenType, Row.scopes, if_neg hne, if_neg hne]
    exact ⟨rfl, rfl⟩
  metadata := ⟨t.not_has_claimsKey, t.leavesReserved invalidatedKey (by simp [reservedKeys])⟩
  scopes scope hscope := Row.columnScope_of_mem_scopes (h.scopes ▸ hscope)
  tokenType _ htype := Row.tokenType_eq_bearer (h.tokenType ▸ htype)

theorem Row.soundFrom_of_load {row : Row} {directory : Directory} {a : Authorization}
    (h : (row.load directory).outcome = .ok a) : a.SoundFrom directory row := by
  obtain ⟨hclient, _, hloaded⟩ := load_eq_ok_iff_loadedFrom.mp h
  refine ⟨hloaded.registeredClientId ▸ hclient, hloaded, fun slot => ?_, fun slot t ht => ?_⟩
  · refine ⟨fun hsome hnone => hsome (hloaded.absent slot hnone), fun hvalue => ?_⟩
    obtain ⟨t, ht, _⟩ := hloaded.present slot hvalue
    rw [ht]
    exact Option.some_ne_none t
  · exact (hloaded.readFrom ht).soundIn (hloaded.valid slot t ht)

/-! ## Lookups -/

/-- Whatever the rows hold, what a lookup finds by id or by token has a registered client and keeps
every rule of tokens and slots. -/
theorem found_sound (s : Store) (directory : Directory) (a : Authorization) :
    (∀ id, (s.findById directory id).outcome = .ok (some a) →
      ∃ row, s.find? id = some row ∧ a.SoundFrom directory row) ∧
    ∀ text hint, (s.findByToken directory text hint).outcome = .ok (some a) →
      ∃ row ∈ s.rows, row.Holds text ∧ a.SoundFrom directory row := by
  refine ⟨fun id h => ?_, fun text hint h => ?_⟩
  · obtain ⟨row, hfind, hload⟩ := Store.findById_eq_some h
    exact ⟨row, hfind, Row.soundFrom_of_load hload⟩
  · obtain ⟨row, hmem, hholds, hload⟩ := Store.findByToken_eq_some h
    exact ⟨row, hmem, hholds, Row.soundFrom_of_load hload⟩

/-- A row that the store would not write: no column of claim maps holds a map, the state is blank,
and the type and the scopes of the access token are spelled anyhow. -/
def foreignRow (value : ByteArray) : Row where
  id := "f1"
  registeredClientId := "c1"
  principalName := "alice"
  grantType := "authorization_code"
  attributes := some "\x7b"
  state := some " "
  tokens := Slot.table .empty
    ⟨some value, some ⟨1, by decide⟩, some ⟨1000001, by decide⟩, some "[]"⟩ .empty .empty
  accessType := some "bEaReR"
  accessScopes := some " read ,, write"

/-- The store with that row only. -/
def foreignStore (value : ByteArray) : Store :=
  ⟨[foreignRow value], List.nodup_singleton _⟩

theorem found_sound_sample :
    ∃ a, ((foreignStore "at-1".toUTF8).findByToken (Directory.ofList [sampleClient]) "at-1"
        none).outcome = .ok (some a) ∧
      ∃ row ∈ (foreignStore "at-1".toUTF8).rows, row.Holds "at-1" ∧
        a.SoundFrom (Directory.ofList [sampleClient]) row := by
  obtain ⟨a, ha⟩ : ∃ a, ((foreignStore "at-1".toUTF8).findByToken
      (Directory.ofList [sampleClient]) "at-1" none).outcome = .ok (some a) := ⟨_, rfl⟩
  exact ⟨a, ha, (found_sound _ _ a).2 "at-1" none ha⟩

/-! ## Ends of a load -/

/-- An outcome whose fault, if it is one, is an error of the integrity family. -/
def OnlyIntegrity (outcome : Except Fault α) : Prop :=
  ∀ fault, outcome = .error fault → ∃ failure, fault = .failure failure ∧ failure.isIntegrity = true

/-- What a row cannot be decoded for is no error of the store's own. -/
theorem Row.Undecodable.not_failure {row : Row} {fault : Fault} (h : row.Undecodable fault)
    (failure : Failure) : fault ≠ .failure failure := by
  rintro rfl
  rcases h with _ | ⟨_, h⟩
  cases h

namespace Store

variable {s : Store} {id : String} {row : Row}

theorem onlyIntegrity_findById_iff (hrow : s.find? id = some row)
    (hid : Text.isBlankText id = false) (directory : Directory) :
    OnlyIntegrity (s.findById directory id).outcome ↔
      (directory.Registered row.registeredClientId → row.Decodable) := by
  rw [outcome_findById_of_row hrow hid]
  constructor
  · intro honly hclient
    by_contra h
    obtain ⟨fault, hfault, hload⟩ := Row.outcome_load_of_not_decodable hclient h
    rw [hload] at honly
    obtain ⟨failure, hfailure, _⟩ := honly fault rfl
    exact hfault.not_failure failure hfailure
  · intro h fault hfault
    by_cases hclient : directory.Registered row.registeredClientId
    · rw [Row.outcome_load_of_decodable hclient (h hclient)] at hfault
      cases hassemble : row.assemble row.attributesOf row.slotContent with
      | ok a =>
        rw [hassemble] at hfault
        cases hfault
      | rejected issues =>
        rw [hassemble] at hfault
        cases hfault
        exact ⟨_, rfl, rfl⟩
    · rw [Row.outcome_load_of_unregistered hclient] at hfault
      cases hfault
      exact ⟨_, rfl, rfl⟩

end Store

/-- A lookup by the id of a row ends with an authorization or an integrity error exactly if the
client of the row is not registered or the row can be decoded.  A row of an unregistered client is
reported as such.  Of the others one that can be decoded is loaded if it keeps the rules, and is
damaged data if not; one that cannot be decoded ends the lookup with what is wrong with it, an
integer that is too long or bytes that are not UTF-8. -/
theorem findById_outcome {s : Store} {id : String} {row : Row} (hrow : s.find? id = some row)
    (hid : Text.isBlankText id = false) (directory : Directory) :
    (OnlyIntegrity (s.findById directory id).outcome ↔
      (directory.Registered row.registeredClientId → row.Decodable)) ∧
    (¬directory.Registered row.registeredClientId →
      (s.findById directory id).outcome =
        .error (.failure (.unresolvedClient row.registeredClientId))) ∧
    (directory.Registered row.registeredClientId → row.Decodable →
      (row.Orderly → ∃ a, (s.findById directory id).outcome = .ok (some a) ∧
        a.SoundFrom directory row) ∧
      (¬row.Orderly → (s.findById directory id).outcome = .error (.failure
        (.integrity s!"Authorization '{row.id}' violates its invariants"
          [("id", .text row.id)])))) ∧
    (directory.Registered row.registeredClientId → ¬row.Decodable →
      ∃ fault, row.Undecodable fault ∧ (s.findById directory id).outcome = .error fault) := by
  refine ⟨Store.onlyIntegrity_findById_iff hrow hid directory, ?_⟩
  rw [Store.outcome_findById_of_row hrow hid]
  refine ⟨fun hclient => ?_, fun hclient h => ⟨fun horderly => ?_, fun horderly => ?_⟩,
    fun hclient h => ?_⟩
  · rw [Row.outcome_load_of_unregistered hclient]
    rfl
  · obtain ⟨a, ha⟩ := (Row.exists_loadedFrom_iff h).mpr horderly
    have hload := Row.load_eq_ok_iff_loadedFrom.mpr ⟨hclient, h, ha⟩
    exact ⟨a, congrArg (some <$> ·) hload, Row.soundFrom_of_load hload⟩
  · rw [Row.outcome_load_of_not_orderly hclient h horderly]
    rfl
  · obtain ⟨fault, hfault, hload⟩ := Row.outcome_load_of_not_decodable hclient h
    exact ⟨fault, hfault, congrArg (some <$> ·) hload⟩

/-- The row without a client, and with a value that is not UTF-8. -/
theorem findById_outcome_sample :
    (∃ client, ((foreignStore "at-1".toUTF8).findById .empty "f1").outcome =
      .error (.failure (.unresolvedClient client))) ∧
    ∃ fault, (foreignRow ⟨#[0xFF]⟩).Undecodable fault ∧
      ((foreignStore ⟨#[0xFF]⟩).findById (Directory.ofList [sampleClient]) "f1").outcome =
        .error fault := by
  have hid : Text.isBlankText "f1" = false := by decide
  obtain ⟨_, hunregistered, _⟩ :=
    findById_outcome (s := foreignStore "at-1".toUTF8) rfl hid .empty
  obtain ⟨_, _, _, hundecodable⟩ :=
    findById_outcome (s := foreignStore ⟨#[0xFF]⟩) rfl hid (Directory.ofList [sampleClient])
  have hbytes : ¬(foreignRow ⟨#[0xFF]⟩).Decodable := fun h =>
    h _ (.token .access (.notUtf8 ⟨#[0xFF]⟩ rfl rfl))
  exact ⟨⟨_, hunregistered Bool.false_ne_true⟩, hundecodable rfl hbytes⟩

/-- It is not so that only integrity errors end a lookup by the id of a row. -/
theorem findById_not_onlyIntegrity :
    ¬∀ (s : Store) (directory : Directory) (id : String) (row : Row), s.find? id = some row →
      Text.isBlankText id = false → OnlyIntegrity (s.findById directory id).outcome := by
  intro honly
  have hfault : ((foreignStore ⟨#[0xFF]⟩).findById (Directory.ofList [sampleClient])
      "f1").outcome = .error .notUtf8 := rfl
  obtain ⟨failure, hfailure, _⟩ := honly (foreignStore ⟨#[0xFF]⟩) (Directory.ofList [sampleClient])
    "f1" (foreignRow ⟨#[0xFF]⟩) rfl (by decide) .notUtf8 hfault
  cases hfailure

end GrantKeeper
