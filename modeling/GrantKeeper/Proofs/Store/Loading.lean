/-
What a row is loaded as, whoever wrote it.

A row that is loaded tells every part of the authorization (`Authorization.LoadedFrom`).  Whether it
is loaded depends on three things, asked one after another: its client is registered, its bytes and
texts can be decoded (`Row.Decodable`), and what they hold keeps the rules (`Row.Orderly`).  Each of
them has its own way to fail (`outcome_load_of_unregistered`, `outcome_load_of_not_decodable`,
`outcome_load_of_not_orderly`), and what passes them all is loaded (`load_eq_ok_iff_loadedFrom`).
-/
import GrantKeeper.Proofs.Claim.Codec
import GrantKeeper.Proofs.Store.RoundTrip
import GrantKeeper.Proofs.Store.Session

namespace GrantKeeper

/-! ## Columns of claim maps -/

namespace Claims

/-- A column of claim maps whose text has an integer that is too long.  Any other text that cannot
be read counts as empty. -/
def Overlong (column : Option String) : Prop :=
  ∃ text ∈ column, ofJson text = .error (.malformed .oversized)

/-- The claim map of a column: the one that its text holds, or the empty one. -/
def ofColumn (column : Option String) : Claims :=
  match column.map ofJson with
  | some (.ok claims) => claims
  | _ => []

theorem outcome_decode_of_overlong {column : Option String} (h : Overlong column)
    (field : String) : (decode column field).outcome = .error .oversizedInteger := by
  obtain ⟨text, rfl, htext⟩ := h
  rw [decode, decodeStrict, htext]
  rfl

theorem outcome_decode_of_not_overlong {column : Option String} (h : ¬Overlong column)
    (field : String) : (decode column field).outcome = .ok (ofColumn column) := by
  cases column with
  | none => rfl
  | some text =>
    unfold decode decodeStrict ofColumn
    rw [Option.map_some]
    dsimp only
    cases htext : ofJson text with
    | ok claims => rfl
    | error fault =>
      cases fault with
      | notMap kind => rfl
      | malformed fault =>
        cases fault with
        | oversized => exact absurd ⟨text, rfl, htext⟩ h
        | _ => rfl

theorem keysOnce_ofColumn (column : Option String) : (ofColumn column).keysOnce = true := by
  unfold ofColumn
  split
  · next claims hread =>
    obtain ⟨text, _, htext⟩ := Option.map_eq_some_iff.mp hread
    exact (ofText_ofJson htext).keysOnce_eq
  · rfl

end Claims

/-! ## Tokens -/

namespace UnfoldedMetadata

/-- The claims among folded metadata, where these are a map. -/
def claimsIn (folded : Claims) : Option Claims :=
  match folded.get? claimsKey with
  | some (.map claims) => some claims
  | _ => none

/-- The parts of folded metadata. -/
def ofFolded (folded : Claims) : UnfoldedMetadata :=
  ⟨withoutReserved folded, claimsIn folded, (folded.get? invalidatedKey).any Claim.truthy⟩

theorem claimsIn_eq_some_iff {folded claims : Claims} :
    claimsIn folded = some claims ↔ folded.get? claimsKey = some (.map claims) := by
  unfold claimsIn
  split
  · next found hget => rw [hget, Option.some_inj, Option.some_inj, Claim.map.injEq]
  · next hother => exact ⟨fun h => (by cases h), fun h => absurd h (hother claims)⟩

theorem outcome_readClaims (field : String) (folded : Claims) :
    (readClaims field folded).outcome = .ok (claimsIn folded) := by
  unfold readClaims claimsIn
  cases folded.get? claimsKey with
  | none => rfl
  | some claim => cases claim <;> rfl

theorem outcome_read (field : String) (column : Option String) :
    (read field column).outcome = ofFolded <$> (Claims.decode column field).outcome := by
  rw [read, Traced.outcome_bind]
  cases (Claims.decode column field).outcome with
  | error fault => rfl
  | ok folded =>
    show (readClaims field folded >>= _).outcome = _
    rw [Traced.outcome_bind, outcome_readClaims]
    rfl

end UnfoldedMetadata

theorem fromUTF8?_eq_some_iff {data : ByteArray} {s : String} :
    String.fromUTF8? data = some s ↔ data = s.toUTF8 := by
  constructor
  · intro h
    unfold String.fromUTF8? at h
    split at h
    · cases h
      rfl
    · cases h
  · rintro rfl
    exact fromUTF8?_toUTF8 s

/-- A token as it is read from the columns of a slot. -/
structure Token.ReadFrom (row : Row) (slot : Slot) (t : Token) : Prop where
  value : (row.tokens slot).value = some t.value.toUTF8
  issuedAt : t.issuedAt = (row.tokens slot).issuedAt
  expiresAt : t.expiresAt = (row.tokens slot).expiresAt
  /-- The metadata is what the column has beside the reserved keys. -/
  metadata : t.metadata =
    ((Claims.ofColumn (row.tokens slot).metadata).erase claimsKey).erase invalidatedKey
  claims : ∀ claims, t.claims = some claims ↔
    (Claims.ofColumn (row.tokens slot).metadata).get? claimsKey = some (.map claims)
  invalidated : t.invalidated =
    ((Claims.ofColumn (row.tokens slot).metadata).get? invalidatedKey).any Claim.truthy
  tokenType : t.tokenType = row.tokenType slot
  scopes : t.scopes = row.scopes slot

namespace Row

variable {row : Row} {slot : Slot}

/-- The token in a slot whose columns hold a value. -/
def tokenOf (row : Row) (slot : Slot) (value : String) : Checked Token :=
  let unfolded := UnfoldedMetadata.ofFolded (Claims.ofColumn (row.tokens slot).metadata)
  (Token.checkValue value).andThen fun value =>
    Token.ofParts value (row.tokens slot).issuedAt (row.tokens slot).expiresAt unfolded.metadata
      unfolded.claims unfolded.invalidated (row.tokenType slot) (row.scopes slot)

theorem tokenOf_eq_ok_iff {value : String} (hvalue : (row.tokens slot).value = some value.toUTF8)
    {t : Token} : row.tokenOf slot value = .ok t ↔ t.ReadFrom row slot := by
  unfold tokenOf Token.checkValue Token.ofParts
  dsimp only
  constructor
  · intro h
    obtain ⟨checked, hchecked, h⟩ := Checked.andThen_eq_ok_iff.mp h
    split at hchecked
    · cases hchecked
      split at h
      · cases h
        exact ⟨hvalue, rfl, rfl, rfl, fun claims => UnfoldedMetadata.claimsIn_eq_some_iff, rfl, rfl,
          rfl⟩
      · cases h
    · cases hchecked
  · intro h
    have hsame : value = t.value := by
      have hbytes := h.value
      rw [hvalue] at hbytes
      exact toUTF8_inj.mp (Option.some_inj.mp hbytes)
    have hclaims : t.claims =
        UnfoldedMetadata.claimsIn (Claims.ofColumn (row.tokens slot).metadata) :=
      Option.ext fun claims => (h.claims claims).trans UnfoldedMetadata.claimsIn_eq_some_iff.symm
    obtain ⟨_, hissued, hexpires, hmetadata, _, hflag, htype, hscopes⟩ := h
    obtain ⟨_, _, _, _, _, _, _, _, hne, _, hordered⟩ := t
    dsimp only at hsame hissued hexpires hmetadata hflag htype hscopes hclaims
    subst hsame hissued hexpires hmetadata hflag htype hscopes hclaims
    rw [dif_pos hne, Checked.andThen, dif_pos hordered]
    rfl

/-- A token is made exactly of a value that is not empty and of times in order. -/
theorem exists_tokenOf_iff {value : String} :
    (∃ t, row.tokenOf slot value = .ok t) ↔
      value ≠ "" ∧ TimesOrdered (row.tokens slot).issuedAt (row.tokens slot).expiresAt := by
  unfold tokenOf Token.checkValue Token.ofParts
  dsimp only
  constructor
  · rintro ⟨t, h⟩
    obtain ⟨checked, hchecked, h⟩ := Checked.andThen_eq_ok_iff.mp h
    split at hchecked
    · next hne =>
      split at h
      · next hordered => exact ⟨hne, hordered⟩
      · cases h
    · cases hchecked
  · rintro ⟨hne, hordered⟩
    rw [dif_pos hne, Checked.andThen, dif_pos hordered]
    exact ⟨_, rfl⟩

/-! ## Decoding -/

/-- What the columns of a filled slot cannot be decoded for. -/
inductive SlotFault (row : Row) (slot : Slot) : Fault → Prop where
  | overlong (hfilled : (row.tokens slot).value ≠ none)
      (h : Claims.Overlong (row.tokens slot).metadata) : SlotFault row slot .oversizedInteger
  | notUtf8 (data : ByteArray) (hvalue : (row.tokens slot).value = some data)
      (h : String.fromUTF8? data = none) : SlotFault row slot .notUtf8

/-- What a row cannot be decoded for. -/
inductive Undecodable (row : Row) : Fault → Prop where
  | attributes (h : Claims.Overlong row.attributes) : Undecodable row .oversizedInteger
  | token (slot : Slot) {fault : Fault} (h : row.SlotFault slot fault) : Undecodable row fault

/-- A row that can be decoded: its claim maps have no integer that is too long and its values are
UTF-8. -/
def Decodable (row : Row) : Prop :=
  ∀ fault, ¬row.Undecodable fault

/-- What a slot of a row holds, yet to be found in order. -/
def slotContent (row : Row) (slot : Slot) : Option (Checked Token) :=
  ((row.tokens slot).value.bind String.fromUTF8?).map (row.tokenOf slot)

/-- A slot is decoded where nothing is wrong with it, and else fails for something that is. -/
theorem outcome_readToken_cases (row : Row) (slot : Slot) :
    ((∀ fault, ¬row.SlotFault slot fault) ∧
      (row.readToken slot).outcome = .ok (row.slotContent slot)) ∨
    ∃ fault, row.SlotFault slot fault ∧ (row.readToken slot).outcome = .error fault := by
  unfold readToken slotContent
  cases hvalue : (row.tokens slot).value with
  | none =>
    refine .inl ⟨?_, rfl⟩
    rintro fault (⟨hfilled, _⟩ | ⟨data, hdata, _⟩)
    · exact hfilled hvalue
    · rw [hvalue] at hdata
      cases hdata
  | some data =>
    have hfilled : (row.tokens slot).value ≠ none := by simp [hvalue]
    dsimp only
    rw [Traced.outcome_bind, UnfoldedMetadata.outcome_read, Option.bind_some]
    by_cases hmetadata : Claims.Overlong (row.tokens slot).metadata
    · rw [Claims.outcome_decode_of_overlong hmetadata]
      exact .inr ⟨_, .overlong hfilled hmetadata, rfl⟩
    · rw [Claims.outcome_decode_of_not_overlong hmetadata]
      cases hread : String.fromUTF8? data with
      | none => exact .inr ⟨_, .notUtf8 data hvalue hread, rfl⟩
      | some s =>
        refine .inl ⟨?_, rfl⟩
        rintro fault (⟨_, h⟩ | ⟨other, hother, h⟩)
        · exact hmetadata h
        · rw [hvalue] at hother
          cases hother
          rw [hread] at h
          cases h

theorem outcome_traverse_readToken (h : row.Decodable) :
    (Slot.traverse row.readToken).outcome = .ok row.slotContent := by
  rw [Traced.outcome_traverse]
  refine Slot.traverse_eq_ok_iff.mpr fun slot => ?_
  rcases row.outcome_readToken_cases slot with ⟨_, hread⟩ | ⟨fault, hfault, _⟩
  · exact hread
  · exact absurd (.token slot hfault) (h fault)

/-- The slots in turn fail for something that is wrong with one of them. -/
theorem slotFault_of_outcome_traverse {fault : Fault}
    (h : (Slot.traverse row.readToken).outcome = .error fault) :
    ∃ slot, row.SlotFault slot fault := by
  rw [Traced.outcome_traverse] at h
  have hfault : faultOf? (Slot.traverse fun slot => (row.readToken slot).outcome) = some fault := by
    rw [h]
    rfl
  rw [faultOf?_traverse] at hfault
  obtain ⟨slot, _, hslot⟩ := List.exists_of_findSome?_eq_some hfault
  rcases row.outcome_readToken_cases slot with ⟨_, hread⟩ | ⟨other, hother, hread⟩
  · rw [hread] at hslot
    cases hslot
  · rw [hread] at hslot
    cases hslot
    exact ⟨slot, hother⟩

/-- The attributes of a row, with the state of its column where they say nothing of it. -/
def attributesOf (row : Row) : Claims :=
  match row.state.filter fun state => !Text.isBlankText state with
  | some state => (Claims.ofColumn row.attributes).putIfAbsent "state" (.text state)
  | none => Claims.ofColumn row.attributes

theorem outcome_readAttributes_of_overlong (h : Claims.Overlong row.attributes) :
    row.readAttributes.outcome = .error .oversizedInteger := by
  rw [readAttributes, Traced.outcome_bind, Claims.outcome_decode_of_overlong h]
  rfl

theorem outcome_readAttributes_of_not_overlong (h : ¬Claims.Overlong row.attributes) :
    row.readAttributes.outcome = .ok row.attributesOf := by
  rw [readAttributes, Traced.outcome_bind, Claims.outcome_decode_of_not_overlong h]
  unfold attributesOf
  cases row.state with
  | none => rfl
  | some state =>
    show (pure (if Text.isBlankText state then _ else _) : Traced Claims).outcome = _
    rw [Option.filter_some]
    cases Text.isBlankText state <;> rfl

end Row

/-! ## Loading -/

/-- An authorization as it is loaded from a row: a token stands in every slot that has a value and
in no other, and the tokens keep the rules of their slots. -/
structure Authorization.LoadedFrom (row : Row) (a : Authorization) : Prop where
  id : a.id = row.id
  registeredClientId : a.registeredClientId = row.registeredClientId
  principalName : a.principalName = row.principalName
  grantType : a.grantType = row.grantType
  attributes : a.attributes = row.attributesOf
  absent : ∀ slot, (row.tokens slot).value = none → a.tokens slot = none
  present : ∀ slot, (row.tokens slot).value ≠ none →
    ∃ t, a.tokens slot = some t ∧ t.ReadFrom row slot
  valid : a.Valid

theorem Authorization.LoadedFrom.readFrom {row : Row} {a : Authorization} (h : a.LoadedFrom row)
    {slot : Slot} {t : Token} (ht : a.tokens slot = some t) : t.ReadFrom row slot := by
  by_cases hfilled : (row.tokens slot).value = none
  · rw [h.absent slot hfilled] at ht
    cases ht
  · obtain ⟨u, hu, hread⟩ := h.present slot hfilled
    rw [hu] at ht
    cases ht
    exact hread

namespace Row

variable {row : Row}

/-- A row that keeps the rules: no value is empty, no token expires before it was issued, and codes
and access tokens say when they were issued and when they expire. -/
structure Orderly (row : Row) : Prop where
  value : ∀ slot, (row.tokens slot).value ≠ some .empty
  times : ∀ slot, (row.tokens slot).value ≠ none →
    TimesOrdered (row.tokens slot).issuedAt (row.tokens slot).expiresAt
  expiry : ∀ slot, (row.tokens slot).value ≠ none → slot.requiresExpiry = true →
    (row.tokens slot).issuedAt ≠ none ∧ (row.tokens slot).expiresAt ≠ none

theorem Decodable.exists_toUTF8 (h : row.Decodable) {slot : Slot}
    (hfilled : (row.tokens slot).value ≠ none) :
    ∃ s : String, (row.tokens slot).value = some s.toUTF8 := by
  obtain ⟨data, hdata⟩ := Option.ne_none_iff_exists'.mp hfilled
  cases hread : String.fromUTF8? data with
  | none => exact absurd (.token slot (.notUtf8 data hdata hread)) (h _)
  | some s => exact ⟨s, fromUTF8?_eq_some_iff.mp hread ▸ hdata⟩

theorem slotContent_of_none {slot : Slot} (h : (row.tokens slot).value = none) :
    row.slotContent slot = none := by
  rw [slotContent, h]
  rfl

theorem slotContent_of_some {slot : Slot} {s : String}
    (h : (row.tokens slot).value = some s.toUTF8) :
    row.slotContent slot = some (row.tokenOf slot s) := by
  rw [slotContent, h, Option.bind_some, fromUTF8?_toUTF8]
  rfl

/-- What is put together of a row's slots is what the row is loaded as. -/
theorem assemble_eq_ok_iff (h : row.Decodable) {a : Authorization} :
    row.assemble row.attributesOf row.slotContent = .ok a ↔ a.LoadedFrom row := by
  unfold assemble
  rw [Checked.andThen_eq_ok_iff]
  constructor
  · rintro ⟨tokens, htokens, hparts⟩
    rw [Checked.traverse_eq_ok_iff] at htokens
    obtain ⟨hvalid, rfl⟩ := Authorization.ofParts_eq_ok hparts
    refine ⟨rfl, rfl, rfl, rfl, rfl, fun slot hnone => ?_, fun slot hfilled => ?_, hvalid⟩
    · have hslot := htokens slot
      rw [slotContent_of_none hnone] at hslot
      exact (Checked.ok.inj hslot).symm
    · obtain ⟨s, hs⟩ := h.exists_toUTF8 hfilled
      have hslot := htokens slot
      rw [slotContent_of_some hs] at hslot
      obtain ⟨t, ht, hsome⟩ := Checked.map_eq_ok_iff.mp hslot
      exact ⟨t, hsome.symm, (tokenOf_eq_ok_iff hs).mp ht⟩
  · intro hloaded
    refine ⟨a.tokens, Checked.traverse_eq_ok_iff.mpr fun slot => ?_, ?_⟩
    · by_cases hfilled : (row.tokens slot).value = none
      · rw [slotContent_of_none hfilled, hloaded.absent slot hfilled]
        rfl
      · obtain ⟨s, hs⟩ := h.exists_toUTF8 hfilled
        obtain ⟨t, ht, hread⟩ := hloaded.present slot hfilled
        rw [slotContent_of_some hs, ht, (tokenOf_eq_ok_iff hs).mpr hread]
        rfl
    · obtain ⟨hid, hclient, hprincipal, hgrant, hattributes, _, _, hvalid⟩ := hloaded
      rw [← hid, ← hclient, ← hprincipal, ← hgrant, ← hattributes]
      unfold Authorization.ofParts
      dsimp only
      rw [Authorization.brokenRule?_eq_none_iff.mpr hvalid]

/-- What is loaded of a row shows that the row keeps the rules. -/
theorem orderly_of_loadedFrom {a : Authorization} (ha : a.LoadedFrom row) : row.Orderly where
  value slot hempty := by
    obtain ⟨t, _, hread⟩ := ha.present slot (by simp [hempty])
    have hbytes : some "".toUTF8 = some t.value.toUTF8 := hempty.symm.trans hread.value
    exact t.value_ne (toUTF8_inj.mp (Option.some_inj.mp hbytes)).symm
  times slot hfilled := by
    obtain ⟨t, _, hread⟩ := ha.present slot hfilled
    have hordered := t.timesOrdered
    rwa [hread.issuedAt, hread.expiresAt] at hordered
  expiry slot hfilled hslot := by
    obtain ⟨t, ht, hread⟩ := ha.present slot hfilled
    have hgiven := (Authorization.slotRule?_eq_none_iff.mp (ha.valid slot t ht)).1 hslot
    rwa [hread.issuedAt, hread.expiresAt] at hgiven

/-- A slot with a value gives a token where the row keeps the rules. -/
theorem Orderly.exists_readFrom (horderly : row.Orderly) (h : row.Decodable) {slot : Slot}
    (hfilled : (row.tokens slot).value ≠ none) : ∃ t : Token, t.ReadFrom row slot := by
  obtain ⟨s, hs⟩ := h.exists_toUTF8 hfilled
  have hne : s ≠ "" := by
    rintro rfl
    exact horderly.value slot hs
  obtain ⟨t, ht⟩ := exists_tokenOf_iff.mpr ⟨hne, horderly.times slot hfilled⟩
  exact ⟨t, (tokenOf_eq_ok_iff hs).mp ht⟩

/-- A token that was read keeps the rules of its slot where the row does. -/
theorem Orderly.slotRule?_eq_none (horderly : row.Orderly) {slot : Slot} {t : Token}
    (ht : t.ReadFrom row slot) : Authorization.slotRule? slot t = none := by
  have hfilled : (row.tokens slot).value ≠ none := by simp [ht.value]
  refine Authorization.slotRule?_eq_none_iff.mpr ⟨fun hslot => ?_, fun hne => ?_⟩
  · rw [ht.issuedAt, ht.expiresAt]
    exact horderly.expiry slot hfilled hslot
  · -- Outside the access slot nothing is read of a type or of scopes.
    rw [Token.hasAccessFields, ht.tokenType, ht.scopes, tokenType, scopes, if_neg hne, if_neg hne]
    rfl

/-- A row that can be decoded is put together exactly if it keeps the rules. -/
theorem exists_loadedFrom_iff (h : row.Decodable) :
    (∃ a : Authorization, a.LoadedFrom row) ↔ row.Orderly := by
  refine ⟨fun ⟨a, ha⟩ => orderly_of_loadedFrom ha, fun horderly => ?_⟩
  have hslots : ∀ slot, ∃ token : Option Token, (token = none ↔ (row.tokens slot).value = none) ∧
      ∀ t ∈ token, t.ReadFrom row slot := by
    intro slot
    by_cases hfilled : (row.tokens slot).value = none
    · exact ⟨none, iff_of_true rfl hfilled, fun t ht => by cases ht⟩
    · obtain ⟨t, ht⟩ := horderly.exists_readFrom h hfilled
      refine ⟨some t, iff_of_false (Option.some_ne_none t) hfilled, fun u hu => ?_⟩
      cases hu
      exact ht
  -- What the slots give, each on its own, is one table of tokens.
  choose tokens hnone hread using hslots
  refine ⟨⟨row.id, row.registeredClientId, row.principalName, row.grantType, row.attributesOf,
    tokens⟩, rfl, rfl, rfl, rfl, rfl, fun slot => (hnone slot).mpr, fun slot hfilled => ?_,
    fun slot t ht => horderly.slotRule?_eq_none (hread slot t ht)⟩
  obtain ⟨t, ht⟩ := Option.ne_none_iff_exists'.mp (mt (hnone slot).mp hfilled)
  exact ⟨t, ht, hread slot t ht⟩

/-! ## Outcomes of a load -/

variable {directory : Directory}

theorem outcome_load_of_decodable (hclient : directory.Registered row.registeredClientId)
    (h : row.Decodable) :
    (row.load directory).outcome =
      match row.assemble row.attributesOf row.slotContent with
      | .ok a => .ok a
      | .rejected _ => .error (.failure
          (.integrity s!"Authorization '{row.id}' violates its invariants"
            [("id", .text row.id)])) := by
  obtain ⟨client, hfound⟩ := Option.isSome_iff_exists.mp hclient
  rw [load, hfound]
  dsimp only
  rw [Traced.outcome_bind, outcome_readAttributes_of_not_overlong fun ho => h _ (.attributes ho)]
  show (Slot.traverse row.readToken >>= _).outcome = _
  rw [Traced.outcome_bind, outcome_traverse_readToken h]
  show (match row.assemble row.attributesOf row.slotContent with
    | .ok a => _
    | .rejected _ => _ : Traced Authorization).outcome = _
  cases row.assemble row.attributesOf row.slotContent <;> rfl

theorem outcome_load_of_not_decodable (hclient : directory.Registered row.registeredClientId)
    (h : ¬row.Decodable) :
    ∃ fault, row.Undecodable fault ∧ (row.load directory).outcome = .error fault := by
  obtain ⟨client, hfound⟩ := Option.isSome_iff_exists.mp hclient
  rw [load, hfound]
  dsimp only
  rw [Traced.outcome_bind]
  by_cases hattributes : Claims.Overlong row.attributes
  · rw [outcome_readAttributes_of_overlong hattributes]
    exact ⟨_, .attributes hattributes, rfl⟩
  · rw [outcome_readAttributes_of_not_overlong hattributes]
    show ∃ fault, _ ∧ (Slot.traverse row.readToken >>= _).outcome = _
    rw [Traced.outcome_bind]
    cases htokens : (Slot.traverse row.readToken).outcome with
    | error fault =>
      obtain ⟨slot, hslot⟩ := slotFault_of_outcome_traverse htokens
      exact ⟨fault, .token slot hslot, rfl⟩
    | ok tokens =>
      -- Every slot was decoded, so nothing is wrong with the row.
      rw [Traced.outcome_traverse, Slot.traverse_eq_ok_iff] at htokens
      refine absurd (fun fault hfault => ?_) h
      cases hfault with
      | attributes ho => exact hattributes ho
      | token slot hslot =>
        rcases row.outcome_readToken_cases slot with ⟨hclean, _⟩ | ⟨other, _, hread⟩
        · exact hclean fault hslot
        · rw [htokens slot] at hread
          cases hread

/-- A row is loaded exactly where its client is registered and it can be decoded, and as what it
tells. -/
theorem load_eq_ok_iff_loadedFrom {a : Authorization} :
    (row.load directory).outcome = .ok a ↔
      directory.Registered row.registeredClientId ∧ row.Decodable ∧ a.LoadedFrom row := by
  by_cases hclient : directory.Registered row.registeredClientId
  · by_cases h : row.Decodable
    · rw [outcome_load_of_decodable hclient h, ← assemble_eq_ok_iff h]
      cases row.assemble row.attributesOf row.slotContent with
      | ok b => simp [hclient, h]
      | rejected issues => simp
    · obtain ⟨fault, _, hload⟩ := outcome_load_of_not_decodable hclient h
      rw [hload]
      simp [h]
  · rw [outcome_load_of_unregistered hclient]
    simp [hclient]

/-- A row that is decoded and breaks a rule is damaged data. -/
theorem outcome_load_of_not_orderly (hclient : directory.Registered row.registeredClientId)
    (h : row.Decodable) (horderly : ¬row.Orderly) :
    (row.load directory).outcome = .error (.failure
      (.integrity s!"Authorization '{row.id}' violates its invariants"
        [("id", .text row.id)])) := by
  rw [outcome_load_of_decodable hclient h]
  cases hassemble : row.assemble row.attributesOf row.slotContent with
  | ok a =>
    have hloaded := (assemble_eq_ok_iff h).mp hassemble
    exact absurd ((exists_loadedFrom_iff h).mp ⟨a, hloaded⟩) horderly
  | rejected issues => rfl

end Row

/-! ## Keys -/

theorem Token.ReadFrom.keysOnce {row : Row} {slot : Slot} {t : Token} (h : t.ReadFrom row slot) :
    t.keysOnce = true := by
  have hfolded := Claims.keysOnce_ofColumn (row.tokens slot).metadata
  refine Token.keysOnce_iff.mpr ⟨?_, fun claims hclaims => ?_⟩
  · rw [h.metadata]
    exact Claims.keysOnce_erase (Claims.keysOnce_erase hfolded claimsKey) invalidatedKey
  · exact Claims.keysOnce_get? hfolded ((h.claims claims).mp hclaims)

/-- What is loaded holds each key once, whatever the row. -/
theorem Authorization.LoadedFrom.keysOnce {row : Row} {a : Authorization} (h : a.LoadedFrom row) :
    a.KeysOnce where
  attributes := by
    rw [h.attributes, Row.attributesOf]
    have hcolumn := Claims.keysOnce_ofColumn row.attributes
    split
    · exact Claims.keysOnce_putIfAbsent hcolumn rfl
    · exact hcolumn
  tokens _ _ ht := (h.readFrom ht).keysOnce

end GrantKeeper
