/-
Saving an authorization whose sets come in another order.

Scopes are kept in the order of their characters, and the sets in claim maps are written in the order
of their texts.  So nothing of the order in which either came gets into a row
(`Authorization.Reordered.toRow_eq`), and saving one presentation of an authorization is saving any
other (`save_reordered`).  The state is the one column that is not encoded: it is the text of an
attribute, which has to be without sets.
-/
import GrantKeeper.Proofs.Claim.Reordering
import GrantKeeper.Proofs.Service.Saved

namespace GrantKeeper

namespace ScopeSet

theorem ofList_perm {order order' : List String} (h : order.Perm order') :
    ofList order = ofList order' :=
  ext fun scope => by rw [mem_ofList, mem_ofList, h.mem_iff]

/-- The column of a set is its scopes, sorted, with commas between them. -/
theorem toColumn_ofList {order : List String} (h : order.Nodup) :
    (ofList order).toColumn =
      ",".intercalate (order.mergeSort fun s t => decide (s ≤ t)) := by
  have hnodup : (ofList order).toList.Nodup :=
    (ofList order).sorted.imp fun {s t} (hlt : s < t) (heq : s = t) =>
      String.lt_irrefl t (heq ▸ hlt)
  have hperm : (ofList order).toList.Perm (order.mergeSort fun s t => decide (s ≤ t)) :=
    ((List.perm_ext_iff_of_nodup hnodup h).mpr fun _ => mem_ofList).trans
      (List.mergeSort_perm _ _).symm
  have hle : (ofList order).toList.Pairwise (· ≤ ·) :=
    (ofList order).sorted.imp fun hlt => String.not_lt.mp (String.lt_asymm hlt)
  have hsorted : (order.mergeSort fun s t => decide (s ≤ t)).Pairwise (· ≤ ·) := by
    refine (List.pairwise_mergeSort (fun s t u hst htu => ?_) (fun s t => ?_) order).imp
      of_decide_eq_true
    · exact decide_eq_true (String.le_trans (of_decide_eq_true hst) (of_decide_eq_true htu))
    · simpa using String.le_total s t
  rw [toColumn_eq_intercalate, hperm.eq_of_pairwise (fun _ _ _ _ => String.le_antisymm) hle hsorted]

end ScopeSet

/-! ## Tokens -/

namespace Token

/-- Two presentations of a token, which differ at most in the order in which the scopes and the items
of the sets in its claim maps come. -/
structure Reordered (t t' : Token) : Prop where
  value : t.value = t'.value
  issuedAt : t.issuedAt = t'.issuedAt
  expiresAt : t.expiresAt = t'.expiresAt
  metadata : t.metadata.Reordered t'.metadata
  claims : Option.Rel Claims.Reordered t.claims t'.claims
  invalidated : t.invalidated = t'.invalidated
  tokenType : t.tokenType = t'.tokenType
  scopes : ∃ order order' : List String, order.Perm order' ∧
    t.scopes = .ofList order ∧ t'.scopes = .ofList order'

/-- The items of every set in the claim maps of a token are told apart by their texts. -/
structure TextsDistinct (t : Token) : Prop where
  metadata : t.metadata.TextsDistinct
  claims : ∀ claims, t.claims = some claims → claims.TextsDistinct

theorem Reordered.scopes_eq {t t' : Token} (h : t.Reordered t') : t.scopes = t'.scopes := by
  obtain ⟨order, order', hperm, ht, ht'⟩ := h.scopes
  rw [ht, ht', ScopeSet.ofList_perm hperm]

theorem Reordered.foldedMetadata {t t' : Token} (h : t.Reordered t') :
    t.foldedMetadata.Reordered t'.foldedMetadata := by
  have hclaims : t.claimsEntry.Reordered t'.claimsEntry := by
    have hrel := h.claims
    unfold claimsEntry
    generalize t.claims = claims at hrel ⊢
    generalize t'.claims = claims' at hrel ⊢
    cases hrel with
    | none => exact .same _
    | some hclaims => exact Claims.reordered_iff.mpr (.cons ⟨rfl, hclaims⟩ .nil)
  have hflag : t.flagEntry.Reordered t'.flagEntry := by
    unfold flagEntry
    rw [h.invalidated]
    exact .same _
  rw [foldedMetadata_eq, foldedMetadata_eq]
  exact (h.metadata.append hclaims).append hflag

theorem TextsDistinct.foldedMetadata {t : Token} (h : t.TextsDistinct) :
    t.foldedMetadata.TextsDistinct := by
  rw [foldedMetadata_eq, Claims.TextsDistinct, Claim.textsDistinct_map_iff]
  intro e he
  rw [List.mem_append, List.mem_append] at he
  rcases he with (he | he) | he
  · exact Claim.textsDistinct_map_iff.mp h.metadata e he
  · obtain ⟨claims, hclaims, rfl⟩ := Option.map_eq_some_iff.mp (Option.mem_toList.mp he)
    exact h.claims claims hclaims
  · unfold flagEntry at he
    split at he
    · rw [List.mem_singleton.mp he]
      exact Claim.textsDistinct_of_normal_eq_self rfl
    · cases he

/-- Two presentations of a token have the same columns. -/
theorem Reordered.columns_eq {t t' : Token} (h : t.Reordered t') (htexts : t.TextsDistinct)
    (slot : Slot) : t.columns slot = t'.columns slot := by
  rw [columns, columns, h.value, h.issuedAt, h.expiresAt,
    h.foldedMetadata.encode_eq htexts.foldedMetadata]

end Token

/-! ## Authorizations -/

namespace Authorization

/-- Two presentations of an authorization, which differ at most in the order in which scopes and the
items of sets come. -/
structure Reordered (a a' : Authorization) : Prop where
  id : a.id = a'.id
  registeredClientId : a.registeredClientId = a'.registeredClientId
  principalName : a.principalName = a'.principalName
  grantType : a.grantType = a'.grantType
  attributes : a.attributes.Reordered a'.attributes
  tokens : ∀ slot, Option.Rel Token.Reordered (a.tokens slot) (a'.tokens slot)

/-- The items of every set in an authorization are told apart by their texts, and the attribute that
the state is taken from has no sets. -/
structure TextsDistinct (a : Authorization) : Prop where
  attributes : a.attributes.TextsDistinct
  state : ∀ value, a.attributes.get? "state" = some value → value.Setless
  tokens : ∀ slot t, a.tokens slot = some t → t.TextsDistinct

variable {a a' : Authorization}

theorem Reordered.stateText_eq (h : a.Reordered a') (htexts : a.TextsDistinct) :
    a.stateText = a'.stateText := by
  rw [stateText, stateText, h.attributes.get?_eq_of_setless htexts.state]

/-- What is made of a slot is the same if it is for the presentations of the token in it. -/
theorem Reordered.tokens_congr (h : a.Reordered a') {slot : Slot} (f : Option Token → α)
    (hf : ∀ t t', a.tokens slot = some t → t.Reordered t' → f (some t) = f (some t')) :
    f (a.tokens slot) = f (a'.tokens slot) := by
  have hrel := h.tokens slot
  generalize a.tokens slot = token at hrel hf ⊢
  generalize a'.tokens slot = token' at hrel ⊢
  cases hrel with
  | none => rfl
  | some ht => exact hf _ _ rfl ht

theorem slotColumns_eq_elim (a : Authorization) (slot : Slot) :
    a.slotColumns slot = (a.tokens slot).elim (.ok .empty) (·.columns slot) := by
  unfold slotColumns
  cases a.tokens slot <;> rfl

theorem Reordered.slotColumns_eq (h : a.Reordered a') (htexts : a.TextsDistinct) (slot : Slot) :
    a.slotColumns slot = a'.slotColumns slot := by
  rw [slotColumns_eq_elim, slotColumns_eq_elim]
  exact h.tokens_congr (·.elim (.ok .empty) (·.columns slot)) fun t _ ht hreordered =>
    hreordered.columns_eq (htexts.tokens slot t ht) slot

/-- Two presentations of an authorization are written as the same row, or fail alike. -/
theorem Reordered.toRow_eq (h : a.Reordered a') (htexts : a.TextsDistinct) :
    a.toRow = a'.toRow := by
  have htype : (a.tokens .access).bind (·.tokenType) = (a'.tokens .access).bind (·.tokenType) :=
    h.tokens_congr (·.bind (·.tokenType)) fun _ _ _ ht => ht.tokenType
  have hscopes : (a.tokens .access).map (·.scopes.toColumn) =
      (a'.tokens .access).map (·.scopes.toColumn) :=
    h.tokens_congr (Option.map fun t => t.scopes.toColumn) fun _ _ _ ht => by
      rw [Option.map_some, Option.map_some, ht.scopes_eq]
  have hstate : a.stateColumn = a'.stateColumn := by
    rw [stateColumn, stateColumn, h.stateText_eq htexts]
  unfold toRow
  rw [h.attributes.encode_eq htexts.attributes, funext (h.slotColumns_eq htexts), h.id,
    h.registeredClientId, h.principalName, h.grantType, htype, hscopes, hstate]

end Authorization

/-- Saving looks at nothing but the id and the row. -/
theorem Store.save_congr (s : Store) {a a' : Authorization} (hid : a.id = a'.id)
    (hrow : a.toRow = a'.toRow) : s.save (some a) = s.save (some a') := by
  simp only [save, requireIdentified, savingText, bind_assoc, pure_bind, hid, hrow]

/-- What is written does not depend on the order in which sets present their items. Two presentations
of a claim map have the same text, the column of scopes is their sorted text, and two presentations
of an authorization have the same row: to save the one is to save the other. -/
theorem save_reordered :
    (∀ claims claims' : Claims, claims.Reordered claims' → claims.TextsDistinct →
      ∀ field, claims.encode field = claims'.encode field) ∧
    (∀ order order' : List String, order.Nodup → order.Perm order' →
      (ScopeSet.ofList order').toColumn =
        ",".intercalate (order.mergeSort fun s t => decide (s ≤ t))) ∧
    ∀ a a' : Authorization, a.Reordered a' → a.TextsDistinct →
      a.toRow = a'.toRow ∧
      ∀ s : Service, s.perform (.save (some a)) = s.perform (.save (some a')) := by
  refine ⟨fun claims claims' h htexts field => h.encode_eq htexts field,
    fun order order' hnodup hperm => ?_, fun a a' h htexts => ?_⟩
  · rw [← ScopeSet.ofList_perm hperm, ScopeSet.toColumn_ofList hnodup]
  · have hrow := h.toRow_eq htexts
    refine ⟨hrow, fun s => ?_⟩
    rw [s.perform_save, s.perform_save, s.store.save_congr h.id hrow]

/-! ## Samples -/

/-- The sample with a set of roles in a list among its attributes and in the claims of its access
token. -/
def presented (roles : List Claim) (scopes : List String) : Authorization :=
  { sampleAuthorization with
    attributes := [("roles", .list [.set roles])]
    tokens := Slot.table none (some { sampleToken with
      claims := some [("roles", .set roles)]
      scopes := .ofList scopes }) none none }

theorem presented_reordered {roles roles' : List Claim} (hroles : roles.Perm roles')
    {scopes scopes' : List String} (hscopes : scopes.Perm scopes') :
    (presented roles scopes).Reordered (presented roles' scopes') where
  id := rfl
  registeredClientId := rfl
  principalName := rfl
  grantType := rfl
  attributes := Claims.reordered_iff.mpr (.cons ⟨rfl, .list (.cons (.set hroles) .nil)⟩ .nil)
  tokens slot := by
    cases slot with
    | access =>
      have hclaims : Claims.Reordered [("roles", .set roles)] [("roles", .set roles')] :=
        Claims.reordered_iff.mpr (.cons ⟨rfl, .set hroles⟩ .nil)
      exact .some ⟨rfl, rfl, rfl, .same _, .some hclaims, rfl, rfl, scopes, scopes', hscopes, rfl,
        rfl⟩
    | _ => exact .none

theorem presented_textsDistinct {roles : List Claim} (hroles : (Claim.set roles).TextsDistinct)
    (scopes : List String) : (presented roles scopes).TextsDistinct where
  attributes := Claim.textsDistinct_map_iff.mpr (List.forall_mem_singleton.mpr
    (Claim.textsDistinct_iff_parts.mpr ⟨trivial, List.forall_mem_singleton.mpr hroles⟩))
  state := nofun
  tokens slot t ht := by
    cases slot with
    | access =>
      cases ht
      refine ⟨Claim.textsDistinct_of_normal_eq_self rfl, ?_⟩
      rintro claims ⟨⟩
      exact Claim.textsDistinct_map_iff.mpr (List.forall_mem_singleton.mpr hroles)
    | _ => cases ht

/-- The sample is saved alike whichever of two roles and of two scopes comes first. -/
theorem save_reordered_sample :
    openService.perform (.save (some (presented [.text "b", .int 7] ["write", "read"]))) =
      openService.perform (.save (some (presented [.int 7, .text "b"] ["read", "write"]))) := by
  have hdistinct : (Claim.set [.text "b", .int 7]).TextsDistinct := by
    have hne : (Claim.text "b").toText ≠ (Claim.int 7).toText := by decide
    refine Claim.textsDistinct_iff_parts.mpr ⟨?_, ?_⟩
    · simp [Claim.ItemsDistinct, hne, hne.symm]
    · rintro x (_ | ⟨_, _ | ⟨_, ⟨⟩⟩⟩)
      · exact Claim.textsDistinct_of_normal_eq_self rfl
      · exact Claim.textsDistinct_of_normal_eq_self rfl
  exact (save_reordered.2.2 _ _ (presented_reordered (.swap ..) (.swap ..))
    (presented_textsDistinct hdistinct _)).2 openService

end GrantKeeper
