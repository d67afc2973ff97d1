/-
The round trip through a row: what an authorization is loaded as from the row it was written as.

The store keeps a token's claims and its flag under two reserved keys among the metadata, behind the
entries of the token itself, and takes them out again (`read_foldedMetadata`).  With that every slot
comes back in normal form (`readToken_columns`), and so does the whole authorization wherever its
client is registered and its normal form keeps the rules of the slots (`load_eq_ok_iff`).
-/
import GrantKeeper.Proofs.Grant.WellFormed
import GrantKeeper.Proofs.Outcome
import GrantKeeper.Store.Loaded
import GrantKeeper.Store.Written

namespace GrantKeeper

namespace Token

/-! ## Reserved keys -/

/-- The entry under which the store keeps a token's claims, if it has any. -/
def claimsEntry (t : Token) : Claims :=
  (t.claims.map fun claims => (claimsKey, Claim.map claims)).toList

/-- The entry under which the store keeps that a token was invalidated, if it was. -/
def flagEntry (t : Token) : Claims :=
  if t.invalidated then [(invalidatedKey, .bool true)] else []

theorem not_has_claimsKey (t : Token) : t.metadata.has claimsKey = false :=
  t.leavesReserved claimsKey (by simp [reservedKeys])

theorem not_has_invalidatedKey (t : Token) :
    (t.metadata ++ t.claimsEntry).has invalidatedKey = false := by
  have hmetadata : t.metadata.has invalidatedKey = false :=
    t.leavesReserved invalidatedKey (by simp [reservedKeys])
  have hentry : t.claimsEntry.has invalidatedKey = false := by
    unfold claimsEntry
    cases t.claims <;> rfl
  rw [Claims.has, List.any_append, Bool.or_eq_false_iff]
  exact ⟨hmetadata, hentry⟩

theorem foldedMetadata_eq (t : Token) :
    t.foldedMetadata = t.metadata ++ t.claimsEntry ++ t.flagEntry := by
  have hflag : ∀ claims : Claims, claims.has invalidatedKey = false →
      (if t.invalidated then claims.put invalidatedKey (.bool true) else claims) =
        claims ++ t.flagEntry := by
    intro claims habsent
    unfold flagEntry
    cases t.invalidated with
    | true => exact Claims.put_of_not_has habsent (.bool true)
    | false => exact (List.append_nil claims).symm
  have habsent := t.not_has_invalidatedKey
  unfold foldedMetadata
  unfold claimsEntry at habsent ⊢
  cases hc : t.claims with
  | none =>
    rw [hc, Option.map_none, Option.toList_none, List.append_nil] at habsent
    rw [Option.map_none, Option.toList_none, List.append_nil]
    exact hflag t.metadata habsent
  | some claims =>
    rw [hc] at habsent
    have hput := Claims.put_of_not_has t.not_has_claimsKey (.map claims)
    dsimp only
    rw [hput]
    exact hflag _ habsent

theorem keysOnce_foldedMetadata {t : Token} (h : t.keysOnce = true) :
    t.foldedMetadata.keysOnce = true := by
  obtain ⟨hmetadata, hclaims⟩ := keysOnce_iff.mp h
  have hwith : Claims.keysOnce (t.metadata ++ t.claimsEntry) = true := by
    unfold claimsEntry
    cases hc : t.claims with
    | none => exact (List.append_nil t.metadata).symm ▸ hmetadata
    | some claims =>
      exact Claims.keysOnce_append_single hmetadata t.not_has_claimsKey (hclaims claims hc)
  rw [foldedMetadata_eq]
  unfold flagEntry
  cases t.invalidated with
  | true => exact Claims.keysOnce_append_single hwith t.not_has_invalidatedKey rfl
  | false => exact (List.append_nil (t.metadata ++ t.claimsEntry)).symm ▸ hwith

/-- Folding commutes with taking the normal form. -/
theorem normal_foldedMetadata (t : Token) (slot : Slot) :
    t.foldedMetadata.normal = (t.normalIn slot).foldedMetadata := by
  rw [foldedMetadata_eq, foldedMetadata_eq, Claims.normal_append, Claims.normal_append]
  unfold claimsEntry flagEntry normalIn
  cases t.claims <;> cases t.invalidated <;> rfl

theorem get?_claimsKey (t : Token) : t.foldedMetadata.get? claimsKey = t.claims.map .map := by
  rw [foldedMetadata_eq, Claims.get?_append, Claims.get?_append,
    Claims.get?_eq_none t.not_has_claimsKey, Option.none_or]
  unfold claimsEntry flagEntry
  cases t.claims <;> cases t.invalidated <;> rfl

theorem get?_invalidatedKey (t : Token) :
    (t.foldedMetadata.get? invalidatedKey).any Claim.truthy = t.invalidated := by
  rw [foldedMetadata_eq, Claims.get?_append, Claims.get?_eq_none t.not_has_invalidatedKey,
    Option.none_or]
  unfold flagEntry
  cases t.invalidated <;> rfl

theorem erase_foldedMetadata (t : Token) :
    (t.foldedMetadata.erase claimsKey).erase invalidatedKey = t.metadata := by
  have hmetadata : t.metadata.has invalidatedKey = false :=
    t.leavesReserved invalidatedKey (by simp [reservedKeys])
  have hclaims : (t.claimsEntry.erase claimsKey).erase invalidatedKey = [] := by
    unfold claimsEntry
    cases t.claims <;> rfl
  have hflag : (t.flagEntry.erase claimsKey).erase invalidatedKey = [] := by
    unfold flagEntry
    cases t.invalidated <;> rfl
  rw [foldedMetadata_eq, Claims.erase_append, Claims.erase_append, Claims.erase_append,
    Claims.erase_append, Claims.erase_of_not_has t.not_has_claimsKey,
    Claims.erase_of_not_has hmetadata, hclaims, hflag, List.append_nil, List.append_nil]

/-- What the store folded into the metadata of a token it takes out again. -/
theorem read_foldedMetadata {t : Token} (hkeys : t.keysOnce = true) {field text : String}
    (h : t.foldedMetadata.encode field = .ok text) (slot : Slot) :
    UnfoldedMetadata.read field (some text) = pure
      ⟨⟨(t.normalIn slot).metadata, (t.normalIn slot).leavesReserved⟩, (t.normalIn slot).claims,
        t.invalidated⟩ := by
  have hdecode := Claims.decode_of_encode (keysOnce_foldedMetadata hkeys) h field
  have hclaims : UnfoldedMetadata.readClaims field t.foldedMetadata.normal =
      pure (t.normalIn slot).claims := by
    unfold UnfoldedMetadata.readClaims
    rw [t.normal_foldedMetadata slot, get?_claimsKey]
    cases (t.normalIn slot).claims <;> rfl
  have hmetadata : UnfoldedMetadata.withoutReserved t.foldedMetadata.normal =
      ⟨(t.normalIn slot).metadata, (t.normalIn slot).leavesReserved⟩ := by
    refine Subtype.ext ?_
    show (t.foldedMetadata.normal.erase claimsKey).erase invalidatedKey = _
    rw [t.normal_foldedMetadata slot, erase_foldedMetadata]
  have hflag : (t.foldedMetadata.normal.get? invalidatedKey).any Claim.truthy = t.invalidated := by
    rw [t.normal_foldedMetadata slot, get?_invalidatedKey]
    rfl
  rw [UnfoldedMetadata.read, hdecode, pure_bind, hclaims, pure_bind, hmetadata, hflag]

end Token

/-! ## Texts as bytes -/

theorem fromUTF8?_toUTF8 (s : String) : String.fromUTF8? s.toUTF8 = some s := by
  have hvalid : s.toUTF8.IsValidUTF8 := s.isValidUTF8
  rw [String.fromUTF8?, dif_pos hvalid]
  rfl

instance byteArrayLawfulBEq : LawfulBEq ByteArray where
  rfl {a} := show (a.data == a.data) = true from BEq.rfl
  eq_of_beq {a b} h := ByteArray.ext (eq_of_beq (show (a.data == b.data) = true from h))

theorem toUTF8_inj {s t : String} : s.toUTF8 = t.toUTF8 ↔ s = t :=
  String.toByteArray_inj

/-! ## Rows -/

namespace Authorization

/-- A row that an authorization is written as. -/
structure WrittenAs (a : Authorization) (row : Row) : Prop where
  id : row.id = a.id
  registeredClientId : row.registeredClientId = a.registeredClientId
  principalName : row.principalName = a.principalName
  grantType : row.grantType = a.grantType
  attributes : ∃ text, row.attributes = some text ∧
    a.attributes.encode Column.attributes.name = .ok text
  state : row.state = a.stateColumn
  tokens : ∀ slot, a.slotColumns slot = .ok (row.tokens slot)
  accessType : row.accessType = (a.tokens .access).bind (·.tokenType)
  accessScopes : row.accessScopes = (a.tokens .access).map (·.scopes.toColumn)

theorem writtenAs_of_toRow {a : Authorization} {row : Row} (h : a.toRow = .ok row) :
    a.WrittenAs row := by
  unfold toRow at h
  obtain ⟨text, hattributes, h⟩ := Except.bind_eq_ok h
  obtain ⟨tokens, htokens, h⟩ := Except.bind_eq_ok h
  cases h
  exact ⟨rfl, rfl, rfl, rfl, ⟨text, rfl, hattributes⟩, rfl,
    Slot.traverse_eq_ok_iff.mp htokens, rfl, rfl⟩

namespace WrittenAs

variable {a : Authorization} {row : Row}

theorem columns_of_none (h : a.WrittenAs row) {slot : Slot} (hnone : a.tokens slot = none) :
    row.tokens slot = .empty := by
  have hslot := h.tokens slot
  rw [slotColumns, hnone] at hslot
  exact (Except.ok.inj hslot).symm

theorem columns_of_some (h : a.WrittenAs row) {slot : Slot} {t : Token}
    (hsome : a.tokens slot = some t) :
    ∃ metadata, t.foldedMetadata.encode (Column.metadata slot).name = .ok metadata ∧
      row.tokens slot = ⟨some t.value.toUTF8, t.issuedAt, t.expiresAt, some metadata⟩ := by
  have hslot := h.tokens slot
  rw [slotColumns, hsome] at hslot
  dsimp only at hslot
  unfold Token.columns at hslot
  obtain ⟨metadata, hmetadata, hcolumns⟩ := Except.bind_eq_ok hslot
  exact ⟨metadata, hmetadata, (Except.ok.inj hcolumns).symm⟩

theorem value_eq (h : a.WrittenAs row) (slot : Slot) :
    (row.tokens slot).value = (a.tokens slot).map (·.value.toUTF8) := by
  cases hslot : a.tokens slot with
  | none =>
    rw [h.columns_of_none hslot]
    rfl
  | some t =>
    obtain ⟨_, _, hcolumns⟩ := h.columns_of_some hslot
    rw [hcolumns]
    rfl

end WrittenAs
end Authorization

/-! ## Loading -/

namespace Row

variable {a : Authorization} {row : Row}

/-- The state column adds nothing to the attributes: what filled it is among them. -/
theorem readAttributes_of_writtenAs (h : a.WrittenAs row) (hkeys : a.attributes.keysOnce = true) :
    row.readAttributes = pure a.attributes.normal := by
  obtain ⟨text, hcolumn, hencode⟩ := h.attributes
  have hdecode := Claims.decode_of_encode hkeys hencode Column.attributes.name
  rw [readAttributes, hcolumn, hdecode, pure_bind]
  cases hstate : row.state with
  | none => rfl
  | some state =>
    have hhas : a.attributes.normal.has "state" = true := by
      rw [h.state] at hstate
      have htext : a.stateText = some state := (Option.filter_eq_some_iff.mp hstate).1
      rw [Claims.has_normal, Claims.has_eq_isSome]
      unfold Authorization.stateText at htext
      cases hget : a.attributes.get? "state" with
      | none =>
        rw [hget] at htext
        cases htext
      | some value => rfl
    dsimp only
    rw [Claims.putIfAbsent, if_pos hhas, ite_self]

theorem tokenType_of_writtenAs (h : a.WrittenAs row) {slot : Slot} {t : Token}
    (ht : a.tokens slot = some t) : row.tokenType slot = (t.normalIn slot).tokenType := by
  show _ = if slot = .access then t.tokenType.map normalTokenType else none
  unfold tokenType
  by_cases hs : slot = .access
  · subst hs
    rw [if_pos rfl, if_pos rfl, h.accessType, ht]
    rfl
  · rw [if_neg hs, if_neg hs]

theorem scopes_of_writtenAs (h : a.WrittenAs row) {slot : Slot} {t : Token}
    (ht : a.tokens slot = some t) : row.scopes slot = (t.normalIn slot).scopes := by
  show _ = if slot = .access then t.scopes.normal else .empty
  unfold scopes
  by_cases hs : slot = .access
  · subst hs
    rw [if_pos rfl, if_pos rfl, h.accessScopes, ht]
    rfl
  · rw [if_neg hs, if_neg hs]

/-- Every slot is read back in normal form. -/
theorem readToken_of_writtenAs (h : a.WrittenAs row) (hkeys : a.KeysOnce) (slot : Slot) :
    row.readToken slot = pure ((a.normal.tokens slot).map .ok) := by
  cases hslot : a.tokens slot with
  | none =>
    have hnormal : a.normal.tokens slot = none := by
      rw [Authorization.tokens_normal, hslot, Option.map_none]
    rw [readToken, h.columns_of_none hslot, hnormal]
    rfl
  | some t =>
    have hnormal : a.normal.tokens slot = some (t.normalIn slot) := by
      rw [Authorization.tokens_normal, hslot, Option.map_some]
    obtain ⟨metadata, hencode, hcolumns⟩ := h.columns_of_some hslot
    have hread := Token.read_foldedMetadata (hkeys.tokens slot t hslot) hencode slot
    have hvalue : Token.checkValue t.value = .ok ⟨t.value, t.value_ne⟩ := dif_pos t.value_ne
    have hparts : Token.ofParts ⟨t.value, t.value_ne⟩ t.issuedAt t.expiresAt
        ⟨(t.normalIn slot).metadata, (t.normalIn slot).leavesReserved⟩ (t.normalIn slot).claims
        t.invalidated (t.normalIn slot).tokenType (t.normalIn slot).scopes =
          .ok (t.normalIn slot) := dif_pos t.timesOrdered
    rw [readToken, hcolumns, hnormal]
    dsimp only
    rw [hread, pure_bind, fromUTF8?_toUTF8, tokenType_of_writtenAs h hslot,
      scopes_of_writtenAs h hslot]
    dsimp only
    rw [hvalue, Checked.andThen, hparts]
    rfl

theorem traverse_pure (g : Slot → α) :
    Slot.traverse (fun slot => (pure (g slot) : Traced α)) = pure g := by
  simp only [Slot.traverse, map_pure, seq_pure, Slot.table_apply]

/-- Tokens that are found in order are put together, and the rules of their slots decide. -/
theorem assemble_of_writtenAs (h : a.WrittenAs row) :
    row.assemble a.attributes.normal (fun slot => (a.normal.tokens slot).map .ok) =
      match a.normal.brokenRule? with
      | none => .ok a.normal
      | some rule => .flawed (.broken rule) := by
  have hsettle : (fun slot => settle ((a.normal.tokens slot).map Checked.ok)) =
      fun slot => .ok (a.normal.tokens slot) := by
    funext slot
    cases a.normal.tokens slot <;> rfl
  have htraverse : Slot.traverse (fun slot => Checked.ok (a.normal.tokens slot)) =
      .ok a.normal.tokens := Checked.traverse_eq_ok_iff.mpr fun _ => rfl
  rw [assemble, hsettle, htraverse, Checked.andThen, h.id, h.registeredClientId, h.principalName,
    h.grantType]
  rfl

theorem outcome_load (h : a.WrittenAs row) (hkeys : a.KeysOnce) (directory : Directory) :
    (row.load directory).outcome =
      match directory.find? a.registeredClientId, a.normal.brokenRule? with
      | none, _ => .error (.failure (.unresolvedClient a.registeredClientId))
      | some _, none => .ok a.normal
      | some _, some _ => .error (.failure
          (.integrity s!"Authorization '{a.id}' violates its invariants"
            [("id", .text a.id)])) := by
  have htokens : row.readToken = fun slot => pure ((a.normal.tokens slot).map .ok) :=
    funext fun slot => readToken_of_writtenAs h hkeys slot
  have hassemble := assemble_of_writtenAs h
  rw [load, h.registeredClientId]
  cases directory.find? a.registeredClientId with
  | none => rfl
  | some client =>
    dsimp only
    rw [readAttributes_of_writtenAs h hkeys.attributes, pure_bind, htokens, traverse_pure,
      pure_bind, hassemble, h.id]
    cases a.normal.brokenRule? <;> rfl

/-- A row is loaded only where its client is registered, and only as the normal form of what was
written. -/
theorem load_eq_ok_iff (h : a.WrittenAs row) (hkeys : a.KeysOnce) {directory : Directory}
    {b : Authorization} :
    (row.load directory).outcome = .ok b ↔
      directory.Registered a.registeredClientId ∧ a.normal.Valid ∧ b = a.normal := by
  rw [outcome_load h hkeys, Directory.Registered, ← Authorization.brokenRule?_eq_none_iff]
  cases directory.find? a.registeredClientId with
  | none => simp
  | some client => cases a.normal.brokenRule? <;> simp [eq_comm]

/-- What was well formed is loaded as its normal form, where its client is registered. -/
theorem load_of_registered (h : a.WrittenAs row) (ha : a.WellFormed) {directory : Directory}
    (hclient : directory.Registered a.registeredClientId) :
    (row.load directory).outcome = .ok a.normal :=
  (load_eq_ok_iff h ha.keysOnce).mpr ⟨hclient, ha.valid.normal, rfl⟩

theorem outcome_load_of_unregistered {directory : Directory}
    (h : ¬directory.Registered row.registeredClientId) :
    (row.load directory).outcome =
      .error (.failure (.unresolvedClient row.registeredClientId)) := by
  have hnone : directory.find? row.registeredClientId = none := by
    simpa [Directory.Registered] using h
  rw [load, hnone]
  rfl

/-- Of the client of a row a load asks only whether it is registered. -/
theorem load_congr {row : Row} {directory directory' : Directory}
    (h : directory.Registered row.registeredClientId ↔
      directory'.Registered row.registeredClientId) :
    row.load directory = row.load directory' := by
  unfold Directory.Registered at h
  unfold load
  cases hfound : directory.find? row.registeredClientId <;>
    cases hfound' : directory'.find? row.registeredClientId <;>
    simp [hfound, hfound'] at h ⊢

end Row
end GrantKeeper
