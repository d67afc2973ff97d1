/-
Saving that fails.

Saving is refused where there is no authorization or its id is blank.  Otherwise the fields that
claim maps are written to decide (`Authorization.fieldMaps`): it fails with the first of them in whose
maps something cannot be written, and succeeds where there is none.  A save that fails leaves the
service as it was.
-/
import GrantKeeper.Proofs.Claim.Writable
import GrantKeeper.Proofs.Service.Introspection

namespace GrantKeeper

open Service

namespace Token

/-- The claim maps that the metadata column of a token is written from. -/
def claimMaps (t : Token) : List Claims :=
  t.metadata :: t.claims.toList

/-- What the store adds to the metadata is a flag, which can be written, and the claims. -/
theorem fault?_foldedMetadata (t : Token) :
    (Claim.map t.foldedMetadata).fault? =
      t.claimMaps.findSome? fun claims => (Claim.map claims).fault? := by
  have hflag : (Claim.map t.flagEntry).fault? = none := by
    unfold flagEntry
    cases t.invalidated <;> rfl
  have hclaims : (Claim.map t.claimsEntry).fault? =
      t.claims.toList.findSome? fun claims => (Claim.map claims).fault? := by
    unfold claimsEntry
    cases t.claims with
    | none => rfl
    | some claims =>
      show ((Claim.map claims).fault?).or none = _
      rw [Option.or_none]
      exact List.findSome?_singleton.symm
  rw [foldedMetadata_eq, Claims.fault?_append, Claims.fault?_append, hflag, Option.or_none, hclaims,
    claimMaps, List.findSome?_cons]
  cases (Claim.map t.metadata).fault? <;> rfl

end Token

namespace Authorization

/-- The claim maps that the metadata column of a slot is written from. -/
def slotMaps (a : Authorization) (slot : Slot) : List Claims :=
  match a.tokens slot with
  | some token => token.claimMaps
  | none => []

/-- The fields that claim maps are written to, in the order of writing, each with its maps. -/
def fieldMaps (a : Authorization) : List (String × List Claims) :=
  [("attributes", [a.attributes]),
    ("authorization_code_metadata", a.slotMaps .code),
    ("access_token_metadata", a.slotMaps .access),
    ("oidc_id_token_metadata", a.slotMaps .id),
    ("refresh_token_metadata", a.slotMaps .refresh)]

/-- Of the fields that claim maps are written to this is the first with something in its maps that
cannot be written. -/
def FirstFaulty (a : Authorization) (field : String) : Prop :=
  ∃ before maps rest, a.fieldMaps = before ++ (field, maps) :: rest ∧
    (∀ entry ∈ before, ∀ claims ∈ entry.2, ¬claims.Faulty) ∧ ∃ claims ∈ maps, claims.Faulty

/-! ## Faults of fields -/

/-- What writing a field from its maps fails with. -/
def fieldFault? (entry : String × List Claims) : Option Fault :=
  (entry.2.findSome? fun claims => (Claim.map claims).fault?).map (Claims.encodeFault entry.1)

theorem fieldFault?_eq_none_iff {entry : String × List Claims} :
    fieldFault? entry = none ↔ ∀ claims ∈ entry.2, ¬claims.Faulty := by
  rw [fieldFault?, Option.map_eq_none_iff, List.findSome?_eq_none_iff]
  refine forall₂_congr fun claims _ => ?_
  rw [Claims.faulty_iff, ← Option.ne_none_iff_exists', Ne, not_not]

theorem fieldFault?_names_field {entry : String × List Claims} {fault : Fault}
    (h : fieldFault? entry = some fault) :
    ∃ message, fault = .failure (.serialization entry.1 (some message)) := by
  obtain ⟨reason, _, rfl⟩ := Option.map_eq_some_iff.mp h
  exact ⟨_, rfl⟩

theorem faultOf?_encode (claims : Claims) (field : String) :
    faultOf? (claims.encode field) =
      ((Claim.map claims).fault?).map (Claims.encodeFault field) := by
  rw [Claims.encode_eq]
  cases (Claim.map claims).fault? <;> rfl

theorem faultOf?_metadataColumn (a : Authorization) (slot : Slot) :
    faultOf? (a.metadataColumn slot) =
      fieldFault? ((Column.metadata slot).name, a.slotMaps slot) := by
  unfold metadataColumn slotMaps
  cases a.tokens slot with
  | none => rfl
  | some token =>
    show faultOf? ((token.foldedMetadata.encode _).map some) = _
    rw [faultOf?_map, faultOf?_encode, Token.fault?_foldedMetadata]
    rfl

/-- Writing a row fails with the first field that fails. -/
theorem faultOf?_toRow_eq (a : Authorization) :
    faultOf? a.toRow = a.fieldMaps.findSome? fieldFault? := by
  have hattributes : faultOf? (a.attributes.encode Column.attributes.name) =
      fieldFault? ("attributes", [a.attributes]) := by
    rw [faultOf?_encode, fieldFault?, List.findSome?_singleton]
    rfl
  rw [faultOf?_toRow, findSome?_assignments, hattributes, fieldMaps, List.findSome?_cons]
  simp only [faultOf?_metadataColumn, Slot.all, List.findSome?_cons]
  cases fieldFault? ("attributes", [a.attributes]) <;> rfl

theorem toRow_eq_error_iff {a : Authorization} {fault : Fault} :
    a.toRow = .error fault ↔
      ∃ before entry rest, a.fieldMaps = before ++ entry :: rest ∧
        fieldFault? entry = some fault ∧ ∀ e ∈ before, fieldFault? e = none := by
  rw [← List.findSome?_eq_some_iff, ← faultOf?_toRow_eq]
  cases a.toRow <;> simp [faultOf?]

/-- Writing a row fails for a field exactly if it is the first with something that cannot be
written. -/
theorem toRow_fails_iff {a : Authorization} {field : String} :
    (∃ message, a.toRow = .error (.failure (.serialization field message))) ↔
      a.FirstFaulty field := by
  constructor
  · rintro ⟨message, h⟩
    obtain ⟨before, entry, rest, hfields, hfault, hbefore⟩ := toRow_eq_error_iff.mp h
    obtain ⟨text, hnamed⟩ := fieldFault?_names_field hfault
    obtain ⟨name, maps⟩ := entry
    obtain rfl : field = name := by
      cases hnamed
      rfl
    refine ⟨before, maps, rest, hfields, fun e he => fieldFault?_eq_none_iff.mp (hbefore e he), ?_⟩
    by_contra hnone
    have hclean : fieldFault? (field, maps) = none :=
      fieldFault?_eq_none_iff.mpr fun claims hmem hfaulty => hnone ⟨claims, hmem, hfaulty⟩
    rw [hclean] at hfault
    cases hfault
  · rintro ⟨before, maps, rest, hfields, hbefore, claims, hmem, hfaulty⟩
    have hsome : fieldFault? (field, maps) ≠ none := fun hnone =>
      fieldFault?_eq_none_iff.mp hnone claims hmem hfaulty
    obtain ⟨fault, hfault⟩ := Option.ne_none_iff_exists'.mp hsome
    obtain ⟨text, rfl⟩ := fieldFault?_names_field hfault
    exact ⟨some text, toRow_eq_error_iff.mpr ⟨before, (field, maps), rest, hfields, hfault,
      fun e he => fieldFault?_eq_none_iff.mpr (hbefore e he)⟩⟩

/-- Writing a row succeeds exactly if everything in every field can be written. -/
theorem toRow_succeeds_iff {a : Authorization} :
    (∃ row, a.toRow = .ok row) ↔ ∀ entry ∈ a.fieldMaps, ∀ claims ∈ entry.2, ¬claims.Faulty := by
  have hfields : faultOf? a.toRow = none ↔
      ∀ entry ∈ a.fieldMaps, ∀ claims ∈ entry.2, ¬claims.Faulty := by
    rw [faultOf?_toRow_eq, List.findSome?_eq_none_iff]
    exact forall₂_congr fun _ _ => fieldFault?_eq_none_iff
  rw [← hfields]
  cases a.toRow <;> simp [faultOf?]

/-- Writing a row fails for some field exactly if something in some field cannot be written. -/
theorem toRow_fails_iff_faulty {a : Authorization} :
    (∃ field message, a.toRow = .error (.failure (.serialization field message))) ↔
      ∃ entry ∈ a.fieldMaps, ∃ claims ∈ entry.2, claims.Faulty := by
  have hsucceeds := toRow_succeeds_iff (a := a)
  constructor
  · rintro ⟨field, message, h⟩
    obtain ⟨before, maps, rest, hfields, _, claims, hmem, hfaulty⟩ :=
      toRow_fails_iff.mp ⟨message, h⟩
    refine ⟨(field, maps), ?_, claims, hmem, hfaulty⟩
    rw [hfields]
    exact List.mem_append_right before List.mem_cons_self
  · rintro ⟨entry, hentry, claims, hmem, hfaulty⟩
    cases hrow : a.toRow with
    | ok row => exact absurd hfaulty (hsucceeds.mp ⟨row, hrow⟩ entry hentry claims hmem)
    | error fault =>
      obtain ⟨_, failed, _, _, hfault, _⟩ := toRow_eq_error_iff.mp hrow
      obtain ⟨message, rfl⟩ := fieldFault?_names_field hfault
      exact ⟨failed.1, some message, rfl⟩

end Authorization

/-! ## Saving -/

namespace Service

theorem outcome_save_of_none (s : Service) :
    (s.perform (.save none)).2.outcome =
      .error (.failure (.precondition "authorization cannot be None")) := rfl

theorem outcome_save_of_blank (s : Service) {a : Authorization}
    (h : Text.isBlankText a.id = true) :
    (s.perform (.save (some a))).2.outcome =
      .error (.failure (.precondition "id cannot be empty")) := by
  rw [perform_save, Traced.outcome_map, Store.save, Store.requireIdentified_of_blank h]
  rfl

theorem outcome_save_of_not_blank (s : Service) {a : Authorization}
    (h : Text.isBlankText a.id = false) :
    (s.perform (.save (some a))).2.outcome = (fun _ => .done) <$> a.toRow := by
  rw [perform_save, Traced.outcome_map, Store.save, Store.requireIdentified_of_not_blank h,
    pure_bind]
  cases a.toRow <;> rfl

theorem save_eq_error_iff (s : Service) {a : Authorization} (h : Text.isBlankText a.id = false)
    {fault : Fault} :
    (s.perform (.save (some a))).2.outcome = .error fault ↔ a.toRow = .error fault := by
  rw [s.outcome_save_of_not_blank h]
  cases a.toRow with
  | ok row => exact ⟨fun h => (by cases h), fun h => (by cases h)⟩
  | error reason =>
    show Except.error reason = _ ↔ _
    rw [Except.error.injEq, Except.error.injEq]

theorem save_eq_done_iff (s : Service) {a : Authorization} (h : Text.isBlankText a.id = false) :
    (s.perform (.save (some a))).2.outcome = .ok .done ↔ ∃ row, a.toRow = .ok row := by
  rw [s.outcome_save_of_not_blank h]
  cases a.toRow with
  | ok row => exact ⟨fun _ => ⟨row, rfl⟩, fun _ => rfl⟩
  | error reason => exact ⟨fun h => (by cases h), fun ⟨_, h⟩ => (by cases h)⟩

/-- Only a missing authorization or a blank id is refused. -/
theorem save_refused_iff (s : Service) (authorization : Option Authorization) :
    (∃ message, (s.perform (.save authorization)).2.outcome =
        .error (.failure (.precondition message))) ↔
      ∀ a ∈ authorization, Text.isBlankText a.id = true := by
  constructor
  · rintro ⟨message, h⟩ a rfl
    by_contra hblank
    rw [Bool.not_eq_true] at hblank
    rw [s.save_eq_error_iff hblank, Authorization.toRow_eq_error_iff] at h
    obtain ⟨_, _, _, _, hfault, _⟩ := h
    obtain ⟨_, hnamed⟩ := Authorization.fieldFault?_names_field hfault
    cases hnamed
  · intro h
    cases authorization with
    | none => exact ⟨_, s.outcome_save_of_none⟩
    | some a => exact ⟨_, s.outcome_save_of_blank (h a rfl)⟩

theorem perform_save_of_error (s : Service) {authorization : Option Authorization} {fault : Fault}
    (h : (s.perform (.save authorization)).2.outcome = .error fault) :
    (s.perform (.save authorization)).1 = s := by
  rw [perform_save] at h ⊢
  rw [Traced.outcome_map] at h
  unfold withStore Store.after
  cases hsave : (s.store.save authorization).outcome with
  | ok store =>
    rw [hsave] at h
    cases h
  | error _ => rfl

end Service

/-- Saving fails for want of an authorization or of its id exactly where these are missing.
Otherwise it fails exactly where something, at any depth of a claim map, cannot be written, for the
first field in which that is so, and succeeds elsewhere.  The service after a save that failed is
the service before it. -/
theorem save_failures (s : Service) (authorization : Option Authorization) :
    ((∃ message, (s.perform (.save authorization)).2.outcome =
        .error (.failure (.precondition message))) ↔
      ∀ a ∈ authorization, Text.isBlankText a.id = true) ∧
    (∀ a ∈ authorization, Text.isBlankText a.id = false →
      ((∃ field message, (s.perform (.save authorization)).2.outcome =
          .error (.failure (.serialization field message))) ↔
        ∃ entry ∈ a.fieldMaps, ∃ claims ∈ entry.2, claims.Faulty) ∧
      (∀ field, (∃ message, (s.perform (.save authorization)).2.outcome =
          .error (.failure (.serialization field message))) ↔ a.FirstFaulty field) ∧
      ((s.perform (.save authorization)).2.outcome = .ok .done ↔
        ∀ entry ∈ a.fieldMaps, ∀ claims ∈ entry.2, ¬claims.Faulty)) ∧
    ∀ fault, (s.perform (.save authorization)).2.outcome = .error fault →
      (s.perform (.save authorization)).1 = s := by
  refine ⟨s.save_refused_iff authorization, ?_, fun fault h => s.perform_save_of_error h⟩
  rintro a rfl hid
  simp only [s.save_eq_error_iff hid, s.save_eq_done_iff hid]
  exact ⟨Authorization.toRow_fails_iff_faulty, fun field => Authorization.toRow_fails_iff,
    Authorization.toRow_succeeds_iff⟩

/-- The sample for another principal, and with a handle deep in the claims of its refresh token. -/
def unwritableUpdate : Authorization :=
  { sampleAuthorization with
    principalName := "bob"
    tokens := Slot.table none (some sampleToken) none
      (some { sampleRefreshToken with
        claims := some [("amr", .list [.text "pwd", .map [("device", .handle)]])] }) }

/-- When the update of the sample fails, the principal of the row in hand is another already.  The
row in the table is the one saved before. -/
theorem save_failures_sample :
    Text.isBlankText unwritableUpdate.id = false ∧
    unwritableUpdate.FirstFaulty "refresh_token_metadata" ∧
    (Row.assignAll unwritableUpdate.assignments
      (Session.start (empty.run issuedRequests).store "a1").row).1.principalName = "bob" ∧
    ((empty.run issuedRequests).perform (.save (some unwritableUpdate))).1 =
      empty.run issuedRequests := by
  have hid : Text.isBlankText unwritableUpdate.id = false := by decide
  obtain ⟨_, hfields, hkept⟩ := save_failures (empty.run issuedRequests) (some unwritableUpdate)
  obtain ⟨_, hfirst, _⟩ := hfields unwritableUpdate rfl hid
  exact ⟨hid, (hfirst "refresh_token_metadata").mp ⟨_, rfl⟩, rfl, hkept _ rfl⟩

end GrantKeeper
