/-
What the normal form of an authorization keeps and what it changes.

`Authorization.normal` is computed; `IsNormalFormOf` says field by field what it has to be,
without a word about rows and columns, and leaves no choice (`isNormalFormOf_iff`).
-/
import GrantKeeper.Proofs.Grant.WellFormed

namespace GrantKeeper

namespace ScopeSet

/-- A column is the scopes in the order of their characters with commas between them. -/
theorem toColumn_eq_intercalate (set : ScopeSet) :
    set.toColumn = ",".intercalate set.toList := by
  rw [← String.toList_inj, String.toList_intercalate, toColumn, textWith, String.toList_ofList]
  rfl

/-- What comes back from scopes with commas between them, in whatever order they stand: the scopes'
own pieces between commas, trimmed, those of blanks only left out. -/
theorem mem_ofColumn_intercalate_iff {order : List String} {scope : String} :
    scope ∈ ofColumn (some (",".intercalate order)) ↔
      scope ≠ "" ∧ ∃ s ∈ order, ∃ piece ∈ Text.pieces ',' s.toList,
        Text.trim (String.ofList piece) = scope := by
  have hchars : (",".intercalate order).toList =
      Text.joined columnSeparator (order.map String.toList) := String.toList_intercalate
  rw [ofColumn, Option.map_some, Option.getD_some, mem_ofList, scopesIn, List.mem_filter,
    decide_eq_true_iff, and_comm, hchars]
  refine and_congr_right fun hne => ?_
  rw [List.mem_map]
  cases order with
  | nil =>
    -- No scopes at all make one empty piece, which trims to nothing.
    have hempty : Text.trim (String.ofList []) = "" := by rfl
    constructor
    · rintro ⟨piece, hpiece, htrim⟩
      have hnil : piece = [] := by simpa [Text.joined, Text.pieces] using hpiece
      rw [hnil, hempty] at htrim
      exact absurd htrim.symm hne
    · rintro ⟨s, hs, _⟩
      cases hs
  | cons first rest =>
    rw [Text.pieces_joined _ (by simp)]
    constructor
    · rintro ⟨piece, hpiece, htrim⟩
      obtain ⟨cs, hcs, hmem⟩ := List.mem_flatMap.mp hpiece
      obtain ⟨s, hs, rfl⟩ := List.mem_map.mp hcs
      exact ⟨s, hs, piece, hmem, htrim⟩
    · rintro ⟨s, hs, piece, hpiece, htrim⟩
      exact ⟨piece, List.mem_flatMap.mpr ⟨s.toList, List.mem_map_of_mem hs, hpiece⟩, htrim⟩

theorem mem_normal_iff {set : ScopeSet} {scope : String} :
    scope ∈ set.normal ↔
      scope ≠ "" ∧ ∃ s ∈ set, ∃ piece ∈ Text.pieces ',' s.toList,
        Text.trim (String.ofList piece) = scope := by
  rw [normal, toColumn_eq_intercalate]
  exact mem_ofColumn_intercalate_iff

end ScopeSet

/-- The type that is left of one given: that of bearer in its one spelling, whatever the letters were
in which it was given, and any other as it was. -/
inductive Token.TypeLeft : Option String → Option String → Prop where
  | absent : TypeLeft none none
  | bearer {type : String} (h : type.toLower = "bearer") : TypeLeft (some type) (some "Bearer")
  | other {type : String} (h : type.toLower ≠ "bearer") : TypeLeft (some type) (some type)

theorem Token.typeLeft_iff {given left : Option String} :
    Token.TypeLeft given left ↔ left = given.map normalTokenType := by
  constructor
  · rintro (_ | h | h)
    · rfl
    · exact congrArg some (if_pos h).symm
    · exact congrArg some (if_neg h).symm
  · rintro rfl
    cases given with
    | none => exact .absent
    | some type =>
      rw [Option.map_some, normalTokenType]
      split
      · next h => exact .bearer h
      · next h => exact .other h

/-- A token as it is left of another in a slot: value, times and flag are the same, the claim maps
are in normal form. An access token has its type in one spelling and the scopes that a column tells
apart; any other token has neither a type nor scopes. -/
structure Token.IsNormalFormOf (slot : Slot) (n t : Token) : Prop where
  value : n.value = t.value
  issuedAt : n.issuedAt = t.issuedAt
  expiresAt : n.expiresAt = t.expiresAt
  invalidated : n.invalidated = t.invalidated
  metadata : n.metadata = t.metadata.normal
  claims : n.claims = t.claims.map Claims.normal
  tokenType : slot = .access → Token.TypeLeft t.tokenType n.tokenType
  noType : slot ≠ .access → n.tokenType = none
  scopes : ∀ scope, scope ∈ n.scopes ↔ slot = .access ∧ scope ≠ "" ∧
    ∃ s ∈ t.scopes, ∃ piece ∈ Text.pieces ',' s.toList, Text.trim (String.ofList piece) = scope

/-- An authorization as it is left of another: the identity is the same, the attributes are in
normal form, and so is what is in each slot. -/
structure Authorization.IsNormalFormOf (b a : Authorization) : Prop where
  id : b.id = a.id
  registeredClientId : b.registeredClientId = a.registeredClientId
  principalName : b.principalName = a.principalName
  grantType : b.grantType = a.grantType
  attributes : b.attributes = a.attributes.normal
  absent : ∀ slot, a.tokens slot = none → b.tokens slot = none
  present : ∀ slot t, a.tokens slot = some t →
    ∃ n, b.tokens slot = some n ∧ Token.IsNormalFormOf slot n t

theorem Token.isNormalFormOf_normalIn (t : Token) (slot : Slot) :
    Token.IsNormalFormOf slot (t.normalIn slot) t := by
  refine ⟨rfl, rfl, rfl, rfl, rfl, rfl, fun hs => Token.typeLeft_iff.mpr (if_pos hs),
    fun hs => if_neg hs, fun scope => ?_⟩
  show scope ∈ (if slot = .access then t.scopes.normal else .empty) ↔ _
  by_cases hs : slot = .access
  · rw [if_pos hs, ScopeSet.mem_normal_iff]
    exact (and_iff_right hs).symm
  · rw [if_neg hs]
    exact ⟨fun h => (by cases h), fun h => absurd h.1 hs⟩

theorem Token.IsNormalFormOf.eq {slot : Slot} {n t : Token} (h : Token.IsNormalFormOf slot n t) :
    n = t.normalIn slot := by
  have hscopes : n.scopes = (t.normalIn slot).scopes := ScopeSet.ext fun scope =>
    (h.scopes scope).trans ((t.isNormalFormOf_normalIn slot).scopes scope).symm
  have htype : n.tokenType = (t.normalIn slot).tokenType := by
    show _ = if slot = .access then t.tokenType.map normalTokenType else none
    split
    · next hs => exact Token.typeLeft_iff.mp (h.tokenType hs)
    · next hs => exact h.noType hs
  obtain ⟨value, issuedAt, expiresAt, metadata, claims, invalidated, tokenType, scopes, _, _, _⟩ :=
    n
  obtain ⟨rfl, rfl, rfl, rfl, rfl, rfl, _⟩ := h
  dsimp only at hscopes htype
  subst hscopes htype
  rfl

/-- What is left of an authorization is its normal form and nothing else. -/
theorem Authorization.isNormalFormOf_iff {b a : Authorization} :
    b.IsNormalFormOf a ↔ b = a.normal := by
  constructor
  · intro h
    have htokens : b.tokens = a.normal.tokens := by
      funext slot
      rw [tokens_normal]
      cases hslot : a.tokens slot with
      | none => exact h.absent slot hslot
      | some t =>
        obtain ⟨n, hn, hnormal⟩ := h.present slot t hslot
        rw [hn, hnormal.eq, Option.map_some]
    obtain ⟨id, registeredClientId, principalName, grantType, attributes, tokens⟩ := b
    obtain ⟨rfl, rfl, rfl, rfl, rfl, _, _⟩ := h
    dsimp only at htokens
    subst htokens
    rfl
  · rintro rfl
    refine ⟨rfl, rfl, rfl, rfl, rfl, fun slot hslot => ?_, fun slot t hslot => ?_⟩
    · rw [tokens_normal, hslot, Option.map_none]
    · refine ⟨t.normalIn slot, ?_, t.isNormalFormOf_normalIn slot⟩
      rw [tokens_normal, hslot, Option.map_some]

end GrantKeeper
