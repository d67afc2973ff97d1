/-
Token values by another name.

A renaming puts one token value in the place of another, in the tokens of an authorization and in
the columns that hold them.  Nothing but equality is ever asked of a value, so writing and loading
commute with it (`toRow_renamed`, `load_renamed`), with the same entries in the journal.  Where the
new value does not occur, a search for the renamed value finds what a search for the old one did
(`find?_renamed`).
-/
import GrantKeeper.Grant.Invalidation
import GrantKeeper.Proofs.Store.Loading
import Mathlib.Control.Basic
import Mathlib.Data.List.Find

namespace GrantKeeper

/-- To put a new value in the place of an old one keeps apart what is not the new value. -/
theorem ite_eq_ite_iff {old new x y : α} [Decidable (x = old)] [Decidable (y = old)]
    (hx : x ≠ new) (hy : y ≠ new) :
    (if x = old then new else x) = (if y = old then new else y) ↔ x = y := by
  constructor
  · intro h
    split at h
    · next hold =>
      split at h
      · next hold' => exact hold.trans hold'.symm
      · exact absurd h.symm hy
    · split at h
      · exact absurd h hx
      · exact h
  · intro h
    exact if_congr (by rw [h]) rfl h

/-- A token value and the one that takes its place, neither of them blank. -/
structure Renaming where
  old : String
  new : String
  old_given : Text.isBlankText old = false
  new_given : Text.isBlankText new = false

namespace Renaming

variable (r : Renaming)

/-! ## Values -/

/-- A value by its new name. -/
def apply (s : String) : String :=
  if s = r.old then r.new else s

/-- The bytes of a value by its new name. -/
def data (d : ByteArray) : ByteArray :=
  if d == r.old.toUTF8 then r.new.toUTF8 else d

theorem isBlankText_apply (s : String) : Text.isBlankText (r.apply s) = Text.isBlankText s := by
  unfold apply
  split
  · next h => rw [h, r.old_given, r.new_given]
  · rfl

theorem apply_eq_empty_iff {s : String} : r.apply s = "" ↔ s = "" := by
  have hblank : ∀ t : String, Text.isBlankText t = false → t ≠ "" := by
    rintro t ht rfl
    cases ht
  unfold apply
  split
  · next h =>
    rw [h]
    exact iff_of_false (hblank _ r.new_given) (hblank _ r.old_given)
  · rfl

/-- Different values stay different unless one of them is the new one. -/
theorem apply_inj {s t : String} (hs : s ≠ r.new) (ht : t ≠ r.new) :
    r.apply s = r.apply t ↔ s = t :=
  ite_eq_ite_iff hs ht

theorem data_inj {d e : ByteArray} (hd : d ≠ r.new.toUTF8) (he : e ≠ r.new.toUTF8) :
    r.data d = r.data e ↔ d = e := by
  simp only [data, beq_iff_eq]
  exact ite_eq_ite_iff hd he

theorem data_toUTF8 (s : String) : r.data s.toUTF8 = (r.apply s).toUTF8 := by
  unfold data apply
  rw [apply_ite String.toUTF8]
  simp only [beq_iff_eq, toUTF8_inj]

theorem fromUTF8?_data (d : ByteArray) :
    String.fromUTF8? (r.data d) = (String.fromUTF8? d).map r.apply := by
  cases hread : String.fromUTF8? d with
  | some s =>
    rw [fromUTF8?_eq_some_iff.mp hread, data_toUTF8, fromUTF8?_toUTF8]
    rfl
  | none =>
    -- Bytes that are no text are not those of the old value.
    have hother : d ≠ r.old.toUTF8 := by
      rintro rfl
      rw [fromUTF8?_toUTF8] at hread
      cases hread
    rw [data, if_neg (mt beq_iff_eq.mp hother), hread]
    rfl

end Renaming

/-! ## Slots in turn -/

instance : LawfulApplicative Checked where
  map_const := rfl
  id_map x := by cases x <;> rfl
  seqLeft_eq _ _ := rfl
  seqRight_eq _ _ := rfl
  pure_seq _ _ := rfl
  map_pure _ _ := rfl
  seq_pure x _ := by cases x <;> rfl
  seq_assoc x g h := by
    cases x <;> cases g <;> cases h <;> simp [Seq.seq, Checked.seq, Functor.map]

/-- A change of what the effects give may as well be made at the end. -/
theorem Slot.traverse_map [Applicative f] [LawfulApplicative f] (g : α → β) (effect : Slot → f α) :
    Slot.traverse (fun slot => g <$> effect slot) =
      (fun results slot => g (results slot)) <$> Slot.traverse effect := by
  have htable : (fun c a i r slot => g (table c a i r slot)) =
      fun c a i r => table (g c) (g a) (g i) (g r) := by
    funext c a i r slot
    cases slot <;> rfl
  simp only [Slot.traverse, map_seq, seq_map_assoc, Functor.map_map, Function.comp_def]
  rw [htable]

/-! ## Tokens and authorizations -/

variable (r : Renaming)

def Token.renamed (t : Token) : Token :=
  { t with
    value := r.apply t.value
    value_ne := fun h => t.value_ne (r.apply_eq_empty_iff.mp h) }

def Authorization.renamed (a : Authorization) : Authorization :=
  { a with tokens := fun slot => (a.tokens slot).map (·.renamed r) }

def TokenColumns.renamed (c : TokenColumns) : TokenColumns :=
  { c with value := c.value.map r.data }

def Row.renamed (row : Row) : Row :=
  { row with tokens := fun slot => (row.tokens slot).renamed r }

/-- The new value is not that of a token. -/
def Renaming.FreshFor (a : Authorization) : Prop :=
  ∀ slot t, a.tokens slot = some t → t.value ≠ r.new

/-- An authorization in which the new value is no token's, and neither value is the state. -/
structure Authorization.Avoids (a : Authorization) : Prop where
  fresh : r.FreshFor a
  state_old : a.stateText ≠ some r.old
  state_new : a.stateText ≠ some r.new

/-- A row in which the new value is no token's, and neither value is the state. -/
structure Row.Avoids (row : Row) : Prop where
  value : ∀ slot, (row.tokens slot).value ≠ some r.new.toUTF8
  state_old : row.state ≠ some r.old
  state_new : row.state ≠ some r.new

/-! ## Writing -/

theorem Token.columns_renamed (slot : Slot) (t : Token) :
    (t.renamed r).columns slot = TokenColumns.renamed r <$> t.columns slot := by
  unfold columns
  show ((t.foldedMetadata.encode _) >>= _) = _
  cases t.foldedMetadata.encode (Column.metadata slot).name with
  | error fault => rfl
  | ok metadata =>
    show Except.ok (TokenColumns.mk (some (r.apply t.value).toUTF8) _ _ _) = _
    rw [← r.data_toUTF8]
    rfl

namespace Authorization

theorem slotColumns_renamed (a : Authorization) (slot : Slot) :
    (a.renamed r).slotColumns slot = TokenColumns.renamed r <$> a.slotColumns slot := by
  unfold slotColumns renamed
  dsimp only
  cases a.tokens slot with
  | none => rfl
  | some t => exact t.columns_renamed r slot

/-- An authorization with a value renamed is written as its row with the value renamed. -/
theorem toRow_renamed (a : Authorization) :
    (a.renamed r).toRow = Row.renamed r <$> a.toRow := by
  have htokens := Slot.traverse_map (TokenColumns.renamed r) a.slotColumns
  simp only [← a.slotColumns_renamed r] at htokens
  have htype : ((a.renamed r).tokens .access).bind (·.tokenType) =
      (a.tokens .access).bind (·.tokenType) := by
    show ((a.tokens .access).map _).bind _ = _
    cases a.tokens .access <;> rfl
  have hscopes : ((a.renamed r).tokens .access).map (·.scopes.toColumn) =
      (a.tokens .access).map (·.scopes.toColumn) := by
    show ((a.tokens .access).map _).map _ = _
    cases a.tokens .access <;> rfl
  unfold toRow
  rw [htype, hscopes]
  show (a.attributes.encode _ >>= fun attributes =>
    Slot.traverse (a.renamed r).slotColumns >>= _) = _
  rw [htokens]
  cases a.attributes.encode Column.attributes.name with
  | error fault => rfl
  | ok attributes => cases Slot.traverse a.slotColumns <;> rfl

theorem Avoids.row {r : Renaming} {a : Authorization} (h : a.Avoids r) {row : Row}
    (hrow : a.WrittenAs row) : row.Avoids r where
  value slot heq := by
    rw [hrow.value_eq] at heq
    obtain ⟨t, ht, hbytes⟩ := Option.map_eq_some_iff.mp heq
    exact h.fresh slot t ht (toUTF8_inj.mp hbytes)
  state_old heq := h.state_old (Option.filter_eq_some_iff.mp (hrow.state.symm.trans heq)).1
  state_new heq := h.state_new (Option.filter_eq_some_iff.mp (hrow.state.symm.trans heq)).1

/-! ## Searching -/

theorem held_renamed (a : Authorization) :
    (a.renamed r).held = a.held.map fun found => (found.1, found.2.renamed r) := by
  unfold held
  rw [List.map_filterMap]
  congr 1
  funext slot
  show ((a.tokens slot).map _).map _ = _
  cases a.tokens slot <;> rfl

/-- A search for the renamed value finds what a search for the value does. -/
theorem find?_renamed {a : Authorization} (h : r.FreshFor a) {value : String}
    (hvalue : value ≠ r.new) :
    (a.renamed r).find? (r.apply value) =
      (a.find? value).map fun found => (found.1, found.2.renamed r) := by
  have hsame : ∀ found ∈ a.held, (r.apply found.2.value == r.apply value) =
      (found.2.value == value) := by
    intro found hfound
    rw [Bool.eq_iff_iff, beq_iff_eq, beq_iff_eq]
    exact r.apply_inj (h found.1 found.2 (mem_held.mp hfound)) hvalue
  unfold find?
  rw [held_renamed, List.find?_map]
  congr 1
  exact List.find?_congr hsame

theorem withToken_renamed (a : Authorization) (slot : Slot) (t : Token) :
    (a.withToken slot (some t)).renamed r = (a.renamed r).withToken slot (some (t.renamed r)) := by
  unfold withToken renamed
  congr 1
  funext s
  dsimp only
  split <;> rfl

/-- Invalidating the renamed value does to it what invalidating the value does to that. -/
theorem invalidateNoted_renamed {a : Authorization} (h : r.FreshFor a) {value : String}
    (hvalue : value ≠ r.new) :
    (a.renamed r).invalidateNoted (r.apply value) =
      Authorization.renamed r <$> a.invalidateNoted value := by
  have hfound : (a.renamed r).toInvalidate? (r.apply value) =
      (a.toInvalidate? value).map fun found => (found.1, found.2.renamed r) := by
    unfold toInvalidate?
    rw [find?_renamed r h hvalue, Option.filter_map]
    rfl
  unfold invalidateNoted invalidate
  rw [hfound]
  cases a.toInvalidate? value with
  | none => rfl
  | some found =>
    obtain ⟨slot, t⟩ := found
    show (Traced.note _ _ >>= fun _ => pure ((a.renamed r).withToken slot _)) =
      Authorization.renamed r <$> (Traced.note _ _ >>= fun _ => pure (a.withToken slot _))
    rw [map_bind]
    simp only [map_pure, withToken_renamed]
    rfl

theorem brokenRule?_renamed (a : Authorization) :
    (a.renamed r).brokenRule? = a.brokenRule? := by
  unfold brokenRule?
  rw [held_renamed, List.findSome?_map]
  rfl

theorem ofParts_renamed (id registeredClientId principalName grantType : String)
    (attributes : Claims) (tokens : Slot → Option Token) :
    ofParts id registeredClientId principalName grantType attributes
        (fun slot => (tokens slot).map (·.renamed r)) =
      Authorization.renamed r <$>
        ofParts id registeredClientId principalName grantType attributes tokens := by
  have hrule := brokenRule?_renamed r
    ⟨id, registeredClientId, principalName, grantType, attributes, tokens⟩
  rw [renamed] at hrule
  unfold ofParts
  dsimp only at hrule ⊢
  rw [hrule]
  split <;> rfl

end Authorization

/-! ## Loading -/

/-- Whether a value makes a token does not depend on what it is. -/
theorem Token.ofParts_apply (value : String) (issuedAt expiresAt : Option Moment)
    (metadata : Token.Metadata) (claims : Option Claims) (invalidated : Bool)
    (tokenType : Option String) (scopes : ScopeSet) :
    ((checkValue (r.apply value)).andThen fun value =>
        ofParts value issuedAt expiresAt metadata claims invalidated tokenType scopes) =
      Token.renamed r <$> (checkValue value).andThen fun value =>
        ofParts value issuedAt expiresAt metadata claims invalidated tokenType scopes := by
  unfold checkValue ofParts
  by_cases hvalue : value = ""
  · rw [dif_neg (not_not_intro (r.apply_eq_empty_iff.mpr hvalue)), dif_neg (not_not_intro hvalue)]
    rfl
  · rw [dif_pos (mt r.apply_eq_empty_iff.mp hvalue), dif_pos hvalue]
    dsimp only [Checked.andThen]
    split <;> rfl

namespace Row

theorem readToken_renamed (row : Row) (slot : Slot) :
    (row.renamed r).readToken slot =
      (fun token => token.map (Token.renamed r <$> ·)) <$> row.readToken slot := by
  have hvalue : ((row.renamed r).tokens slot).value = (row.tokens slot).value.map r.data := rfl
  unfold readToken
  rw [hvalue]
  cases (row.tokens slot).value with
  | none => rfl
  | some d =>
    dsimp only [Option.map_some]
    rw [map_bind, r.fromUTF8?_data]
    congr 1
    funext unfolded
    cases String.fromUTF8? d with
    | none => rfl
    | some value =>
      dsimp only [Option.map_some]
      rw [Token.ofParts_apply]
      rfl

theorem settle_renamed (token : Option (Checked Token)) :
    settle (token.map (Token.renamed r <$> ·)) = Option.map (Token.renamed r) <$> settle token := by
  cases token with
  | none => rfl
  | some token => cases token <;> rfl

theorem assemble_renamed (row : Row) (attributes : Claims)
    (tokens : Slot → Option (Checked Token)) :
    (row.renamed r).assemble attributes (fun slot => (tokens slot).map (Token.renamed r <$> ·)) =
      Authorization.renamed r <$> row.assemble attributes tokens := by
  unfold assemble
  simp only [settle_renamed]
  rw [Slot.traverse_map]
  cases Slot.traverse fun slot => settle (tokens slot) with
  | rejected issues => rfl
  | ok tokens =>
    exact Authorization.ofParts_renamed r row.id row.registeredClientId row.principalName
      row.grantType attributes tokens

/-- A row with a value renamed is loaded as its authorization with the value renamed. -/
theorem load_renamed (directory : Directory) (row : Row) :
    (row.renamed r).load directory = Authorization.renamed r <$> row.load directory := by
  have hid : (row.renamed r).registeredClientId = row.registeredClientId := rfl
  unfold load
  rw [hid]
  cases directory.find? row.registeredClientId with
  | none => rfl
  | some client =>
    show (row.readAttributes >>= fun attributes =>
      Slot.traverse (row.renamed r).readToken >>= fun tokens => _) = _
    dsimp only
    rw [map_bind, funext (row.readToken_renamed r), Slot.traverse_map]
    congr 1
    funext attributes
    rw [map_bind, bind_map_left]
    congr 1
    funext tokens
    rw [assemble_renamed]
    cases row.assemble attributes tokens <;> rfl

theorem Avoids.fresh_of_load {r : Renaming} {row : Row} (h : row.Avoids r) {directory : Directory}
    {a : Authorization} (hload : (row.load directory).outcome = .ok a) : r.FreshFor a := by
  intro slot t ht hvalue
  obtain ⟨_, _, hloaded⟩ := load_eq_ok_iff_loadedFrom.mp hload
  apply h.value slot
  rw [(hloaded.readFrom ht).value, hvalue]

/-! ## Selecting -/

/-- A row is selected by the renamed text where it was by the text. -/
theorem Avoids.matchesHint_renamed {r : Renaming} {row : Row} (h : row.Avoids r) {text : String}
    (htext : text ≠ r.new) (hint : Hint) :
    (row.renamed r).matchesHint (r.apply text) hint = row.matchesHint text hint := by
  unfold matchesHint
  cases hint.slot? with
  | none =>
    -- The state is not renamed, and is neither of the two values.
    show (row.state == some (r.apply text)) = (row.state == some text)
    unfold Renaming.apply
    split
    · next hold =>
      rw [hold, beq_false_of_ne h.state_new, beq_false_of_ne h.state_old]
    · rfl
  | some slot =>
    show ((row.tokens slot).value.map r.data == some (r.apply text).toUTF8) =
      ((row.tokens slot).value == some text.toUTF8)
    have hvalue := h.value slot
    rw [← r.data_toUTF8]
    cases hdata : (row.tokens slot).value with
    | none => rfl
    | some d =>
      rw [hdata, Ne, Option.some_inj] at hvalue
      rw [Option.map_some, Bool.eq_iff_iff, beq_iff_eq, beq_iff_eq, Option.some_inj,
        Option.some_inj]
      exact r.data_inj hvalue (mt toUTF8_inj.mp htext)

end Row

end GrantKeeper
