/-
Writing in a session: assigning the columns of a row one after another comes to the same as writing
the row at once.

Of assignments in turn the first that fails ends the writing (`outcome_assignAll`).
Where none fails every column but the id was assigned, so nothing is left of what the row in hand
held before (`assignAll_assignments`); where one fails the session is rolled back.  Either way saving
in a session leaves the table and the outcome that `Store.save` says (`saveInSession_eq`).
-/
import GrantKeeper.Proofs.Outcome
import GrantKeeper.Store.Saving

namespace GrantKeeper

/-- Of the slots in turn the first that fails ends the turn. -/
theorem faultOf?_traverse (effect : Slot → Except Fault α) :
    faultOf? (Slot.traverse effect) = Slot.all.findSome? fun slot => faultOf? (effect slot) := by
  unfold Slot.traverse
  simp only [Slot.all, List.findSome?_cons, List.findSome?_nil]
  cases effect .code with
  | error fault => rfl
  | ok code =>
    cases effect .access with
    | error fault => rfl
    | ok access =>
      cases effect .id with
      | error fault => rfl
      | ok id => cases effect .refresh <;> rfl

namespace Row

/-! ## Assignments in turn -/

/-- Which fault ends the writing does not depend on the row in hand. -/
theorem outcome_assignAll (assignments : List Assignment) (row : Row) :
    (assignAll assignments row).2 =
      match assignments.findSome? faultOf? with
      | none => .ok ()
      | some fault => .error fault := by
  induction assignments generalizing row with
  | nil => rfl
  | cons assignment rest ih =>
    cases assignment with
    | ok change => exact ih (change row)
    | error fault => rfl

/-! ## The columns of a slot -/

@[simp] theorem tokens_setToken (row : Row) (slot : Slot) (columns : TokenColumns) :
    (row.setToken slot columns).tokens slot = columns := by
  simp [setToken]

@[simp] theorem setToken_setToken (row : Row) (slot : Slot) (columns others : TokenColumns) :
    (row.setToken slot columns).setToken slot others = row.setToken slot others := by
  unfold setToken
  congr 1
  funext s
  dsimp only
  split <;> rfl

end Row

namespace Authorization

variable {a : Authorization}

theorem slotColumns_eq (a : Authorization) (slot : Slot) :
    a.slotColumns slot = (a.metadataColumn slot).map fun text =>
      ⟨(a.tokens slot).map (·.value.toUTF8), (a.tokens slot).bind (·.issuedAt),
        (a.tokens slot).bind (·.expiresAt), text⟩ := by
  unfold slotColumns metadataColumn
  cases a.tokens slot with
  | none => rfl
  | some token =>
    show token.columns slot = Except.map _ (some <$> _)
    unfold Token.columns
    cases token.foldedMetadata.encode (Column.metadata slot).name <;> rfl

/-- The assignments of a slot give it the columns it is written as, whatever it held before. -/
theorem assignAll_slotAssignments {slot : Slot} {columns : TokenColumns}
    (h : a.slotColumns slot = .ok columns) (rest : List Assignment) (row : Row) :
    Row.assignAll (a.slotAssignments slot ++ rest) row =
      Row.assignAll rest (row.setToken slot columns) := by
  rw [slotColumns_eq] at h
  obtain ⟨text, hmetadata, rfl⟩ := Except.map_eq_ok h
  simp only [slotAssignments, hmetadata, List.cons_append, List.nil_append, Except.map,
    Row.assignAll, Row.changeToken, Row.setToken_setToken, Row.tokens_setToken]

theorem findSome?_slotAssignments (a : Authorization) (slot : Slot) :
    (a.slotAssignments slot).findSome? faultOf? = faultOf? (a.metadataColumn slot) := by
  unfold slotAssignments
  cases a.metadataColumn slot <;> rfl

/-! ## The whole row -/

/-- Assigning every column of a row in hand makes it the row that the authorization is written as,
whatever the columns held before. -/
theorem assignAll_assignments {row written : Row} (hid : row.id = a.id)
    (h : a.toRow = .ok written) : Row.assignAll a.assignments row = (written, .ok ()) := by
  unfold toRow at h
  obtain ⟨attributes, hattributes, h⟩ := Except.bind_eq_ok h
  obtain ⟨tokens, htokens, h⟩ := Except.bind_eq_ok h
  cases h
  have hslots := Slot.traverse_eq_ok_iff.mp htokens
  have hall : ∀ base : Row, (((base.setToken .code (tokens .code)).setToken .access
      (tokens .access)).setToken .id (tokens .id)).setToken .refresh (tokens .refresh) =
        { base with tokens := tokens } := by
    intro base
    unfold Row.setToken
    congr 1
    funext slot
    cases slot <;> rfl
  simp only [assignments, Slot.all, List.flatMap_cons, List.flatMap_nil, List.append_assoc,
    hattributes, Except.map, List.cons_append, List.nil_append, Row.assignAll,
    assignAll_slotAssignments (hslots _), hall, hid]

/-- Assigning fails where a column of claim maps has no text; the first such column counts. -/
theorem findSome?_assignments (a : Authorization) :
    a.assignments.findSome? faultOf? =
      (faultOf? (a.attributes.encode Column.attributes.name)).or
        (Slot.all.findSome? fun slot => faultOf? (a.metadataColumn slot)) := by
  have hslots : (Slot.all.flatMap a.slotAssignments).findSome? faultOf? =
      Slot.all.findSome? fun slot => faultOf? (a.metadataColumn slot) := by
    rw [findSome?_flatMap]
    congr 1
    funext slot
    exact a.findSome?_slotAssignments slot
  rw [assignments, List.findSome?_append, List.findSome?_append, hslots]
  cases a.attributes.encode Column.attributes.name with
  | error fault => rfl
  | ok text => exact Option.or_none

/-- Writing the row at once fails where assigning its columns does. -/
theorem faultOf?_toRow (a : Authorization) :
    faultOf? a.toRow = a.assignments.findSome? faultOf? := by
  have htokens : faultOf? (Slot.traverse a.slotColumns) =
      Slot.all.findSome? fun slot => faultOf? (a.metadataColumn slot) := by
    rw [faultOf?_traverse]
    congr 1
    funext slot
    rw [slotColumns_eq, faultOf?_map]
  rw [findSome?_assignments, ← htokens, toRow]
  cases a.attributes.encode Column.attributes.name with
  | error fault => rfl
  | ok text => cases Slot.traverse a.slotColumns <;> rfl

theorem outcome_assignments (a : Authorization) (row : Row) :
    (Row.assignAll a.assignments row).2 = (fun _ => ()) <$> a.toRow := by
  rw [Row.outcome_assignAll, ← faultOf?_toRow]
  cases a.toRow <;> rfl

end Authorization

/-! ## Saving -/

namespace Session

theorem id_start (table : Store) (id : String) : (start table id).row.id = id := by
  unfold start
  cases hfind : table.find? id with
  | none => rfl
  | some row =>
    have hid := List.find?_some hfind
    exact by simpa using hid

/-- A session leaves its table with the written row, or as it was. -/
theorem assign_assignments (table : Store) (a : Authorization) :
    (start table a.id).assign a.assignments =
      match a.toRow with
      | .ok row => (table.put row, .ok ())
      | .error fault => (table, .error fault) := by
  unfold assign
  cases hrow : a.toRow with
  | ok row =>
    rw [Authorization.assignAll_assignments (id_start table a.id) hrow]
    rfl
  | error fault =>
    have houtcome := a.outcome_assignments (start table a.id).row
    rw [hrow] at houtcome
    generalize Row.assignAll a.assignments (start table a.id).row = assigned at houtcome
    obtain ⟨row, outcome⟩ := assigned
    cases houtcome
    rfl

end Session

namespace Store

theorem requireIdentified_of_blank {a : Authorization} (h : Text.isBlankText a.id = true) :
    requireIdentified (some a) = Traced.fail (.precondition "id cannot be empty") := by
  simp only [requireIdentified, requireText, h, if_true]
  rfl

theorem requireIdentified_of_not_blank {a : Authorization} (h : Text.isBlankText a.id = false) :
    requireIdentified (some a) = pure a := by
  simp only [requireIdentified, requireText, h, Bool.false_eq_true, if_false, pure_bind]

/-- Saving in a session leaves the store that saving makes, or the store as it was, with the same
report and outcome. -/
theorem saveInSession_eq (s : Store) (authorization : Option Authorization) :
    s.saveInSession authorization =
      (s.after (s.save authorization), (fun _ => ()) <$> s.save authorization) := by
  unfold saveInSession save
  cases authorization with
  | none => rfl
  | some a =>
    cases hid : Text.isBlankText a.id with
    | true =>
      rw [requireIdentified_of_blank hid]
      rfl
    | false =>
      rw [requireIdentified_of_not_blank hid, pure_bind, Traced.outcome_pure]
      dsimp only
      rw [Session.assign_assignments]
      cases a.toRow <;> rfl

end Store
end GrantKeeper
