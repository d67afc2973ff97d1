/-
What lookups find in a store that represents a history.

A lookup by id answers for the authorization held under the id.  A lookup by token answers for its
owners, the ids whose authorization has the text where the hint says (`Holdings.owners`): none, one,
or too many (`findByToken_cases`).  Both load what they find, so the answer is a normal form.
-/
import Mathlib.Data.List.Nodup
import Mathlib.Data.Set.Subsingleton
import GrantKeeper.Proofs.Claim.Reading
import GrantKeeper.Proofs.Service.History

namespace GrantKeeper

/-! ## Owners -/

/-- The names of the fields that an authorization can be looked up by. -/
def lookupNames : List String := ["state", "authorization_code", "access_token", "refresh_token"]

/-- The names that a hint has searched: without a hint all of them, and `code` is short for the
authorization code. -/
def searchedNames : Option String → List String
  | none => lookupNames
  | some hint => [if hint = "code" then "authorization_code" else hint]

/-- The text that an authorization has in a field: the text of its attribute `state`, where that is
given, not null and not blank, or the value of a token. The id token has no name here. -/
def Authorization.lookupText (a : Authorization) (name : String) : Option String :=
  if name = "state" then
    ((a.attributes.get? "state").bind Claim.text?).filter fun s => !Text.isBlankText s
  else if name = "authorization_code" then (a.tokens .code).map (·.value)
  else if name = "access_token" then (a.tokens .access).map (·.value)
  else if name = "refresh_token" then (a.tokens .refresh).map (·.value)
  else none

/-- The ids whose authorization has a text in one of the fields that a hint has searched. -/
def Holdings.owners (held : Holdings) (text : String) (hint : Option String) : Set String :=
  {id | ∃ a, held id = some a ∧ ∃ name ∈ searchedNames hint, a.lookupText name = some text}

theorem Authorization.lookupText_state_iff {a : Authorization} {text : String} :
    a.lookupText "state" = some text ↔ Text.isBlankText text = false ∧
      ∃ value, a.attributes.get? "state" = some value ∧ value ≠ .null ∧ value.toText = text := by
  rw [lookupText, if_pos rfl, Option.filter_eq_some_iff, Bool.not_eq_true', and_comm]
  simp only [Option.bind_eq_some_iff, Claim.text?_eq_some_iff]

/-- The text of the state is written as it is to be looked up. -/
theorem Authorization.stateColumn_eq (a : Authorization) : a.stateColumn = a.lookupText "state" := by
  have hstate : a.stateText = (a.attributes.get? "state").bind Claim.text? := by
    unfold stateText
    cases a.attributes.get? "state" with
    | none => rfl
    | some value => cases value <;> rfl
  rw [stateColumn, lookupText, if_pos rfl, hstate]

theorem Authorization.lookupText_hint (a : Authorization) (hint : Hint) :
    a.lookupText hint.name =
      match hint.slot? with
      | none => a.stateColumn
      | some slot => (a.tokens slot).map (·.value) := by
  cases hint with
  | state => exact a.stateColumn_eq.symm
  | _ => rfl

theorem Authorization.lookupText_of_not_mem (a : Authorization) {name : String}
    (h : name ∉ lookupNames) : a.lookupText name = none := by
  simp only [lookupNames, List.mem_cons, List.not_mem_nil, or_false, not_or] at h
  obtain ⟨hstate, hcode, haccess, hrefresh⟩ := h
  rw [lookupText, if_neg hstate, if_neg hcode, if_neg haccess, if_neg hrefresh]

/-- A text in a field is that of the state or the value of a token other than the id token. -/
theorem Authorization.lookupText_eq_some {a : Authorization} {name text : String}
    (h : a.lookupText name = some text) :
    a.lookupText "state" = some text ∨
      ∃ slot t, slot ≠ .id ∧ a.tokens slot = some t ∧ t.value = text := by
  have hvalue : ∀ slot, slot ≠ .id → (a.tokens slot).map (·.value) = some text →
      ∃ slot t, slot ≠ .id ∧ a.tokens slot = some t ∧ t.value = text := by
    intro slot hslot hmap
    obtain ⟨t, ht, hvalue⟩ := Option.map_eq_some_iff.mp hmap
    exact ⟨slot, t, hslot, ht, hvalue⟩
  by_cases hstate : name = "state"
  · subst hstate
    exact Or.inl h
  · rw [lookupText, if_neg hstate] at h
    split at h
    · exact Or.inr (hvalue .code (by decide) h)
    · split at h
      · exact Or.inr (hvalue .access (by decide) h)
      · split at h
        · exact Or.inr (hvalue .refresh (by decide) h)
        · cases h

/-- A hint is read by its name, with the short form written out. -/
theorem Hint.parse?_eq (hint : String) :
    Hint.parse? hint =
      Hint.all.find? (·.name == if hint = "code" then "authorization_code" else hint) := by
  unfold Hint.parse?
  by_cases h : hint = "code"
  · rw [if_pos h, if_pos h]
    rfl
  · rw [if_neg h, if_neg h]

theorem Holdings.owners_eq_singleton {held : Holdings} {id name text : String} {a : Authorization}
    (ha : held id = some a) (honly : ∀ other, other ≠ id → held other = none)
    {hint : Option String} (hname : name ∈ searchedNames hint)
    (htext : a.lookupText name = some text) : held.owners text hint = {id} := by
  refine Set.eq_singleton_iff_unique_mem.mpr ⟨⟨a, ha, name, hname, htext⟩, ?_⟩
  rintro other ⟨b, hb, _⟩
  by_contra hother
  rw [honly other hother] at hb
  cases hb

/-- A hint only narrows the search. -/
theorem Holdings.owners_subset (held : Holdings) (text : String) (hint : Option String) :
    held.owners text hint ⊆ held.owners text none := by
  rintro id ⟨a, ha, name, _, htext⟩
  refine ⟨a, ha, name, ?_, htext⟩
  by_contra hname
  rw [a.lookupText_of_not_mem hname] at htext
  cases htext

namespace Store

theorem searchedNames_of_searched? {hint : Option String} {hints : List Hint}
    (h : searched? hint = some hints) : hints.map Hint.name = searchedNames hint := by
  cases hint with
  | none =>
    cases h
    rfl
  | some hint =>
    obtain ⟨parsed, hparsed, rfl⟩ := Option.map_eq_some_iff.mp h
    rw [Hint.parse?_eq] at hparsed
    have hname := List.find?_some hparsed
    rw [List.map_singleton, searchedNames, eq_of_beq hname]

/-- A hint cannot be searched by exactly when it is given and names no field. -/
theorem searched?_eq_none_iff {hint : Option String} :
    searched? hint = none ↔ ∀ name ∈ searchedNames hint, name ∉ lookupNames := by
  cases hint with
  | none => simp [searched?, searchedNames, lookupNames]
  | some hint =>
    rw [searched?, Option.map_eq_none_iff, Hint.parse?_eq, List.find?_eq_none, searchedNames]
    have hnames : lookupNames = Hint.all.map Hint.name := rfl
    simp [hnames]

theorem owners_of_not_searched {hint : Option String} (h : searched? hint = none)
    (held : Holdings) (text : String) : held.owners text hint = ∅ := by
  rw [Set.eq_empty_iff_forall_notMem]
  rintro id ⟨a, _, name, hname, htext⟩
  rw [a.lookupText_of_not_mem (searched?_eq_none_iff.mp h name hname)] at htext
  cases htext

end Store

/-! ## Rows selected -/

/-- A row has a text where a hint says exactly when the authorization it was written as does. -/
theorem Authorization.WrittenAs.matchesHint_iff {a : Authorization} {row : Row}
    (h : a.WrittenAs row) {text : String} {hint : Hint} :
    row.matchesHint text hint = true ↔ a.lookupText hint.name = some text := by
  rw [a.lookupText_hint]
  unfold Row.matchesHint
  cases hint.slot? with
  | none =>
    dsimp only
    rw [h.state, beq_iff_eq]
  | some slot =>
    dsimp only
    rw [h.value_eq, beq_iff_eq]
    cases a.tokens slot with
    | none => simp
    | some t =>
      rw [Option.map_some, Option.map_some, Option.some_inj, Option.some_inj]
      exact toUTF8_inj

theorem Authorization.WrittenAs.of_found {a b : Authorization} {row : Row} (h : a.WrittenAs row)
    (hkeys : a.KeysOnce) {directory : Directory}
    (hfound : some <$> (row.load directory).outcome = .ok (some b)) :
    directory.Registered a.registeredClientId ∧ b = a.normal := by
  cases hrow : (row.load directory).outcome with
  | error fault =>
    rw [hrow] at hfound
    cases hfound
  | ok loaded =>
    rw [hrow] at hfound
    cases hfound
    obtain ⟨hclient, _, hnormal⟩ := (Row.load_eq_ok_iff h hkeys).mp hrow
    exact ⟨hclient, hnormal⟩

namespace Store

theorem find?_of_mem {s : Store} {row : Row} (h : row ∈ s.rows) : s.find? row.id = some row := by
  have hsome : (s.find? row.id).isSome = true := List.find?_isSome.mpr ⟨row, h, by simp⟩
  obtain ⟨found, hfound⟩ := Option.isSome_iff_exists.mp hsome
  have hid : found.id = row.id := by simpa using List.find?_some hfound
  have hsame := List.inj_on_of_nodup_map s.ids_nodup (List.mem_of_find?_eq_some hfound) h hid
  rw [hfound, hsame]

theorem id_of_find? {s : Store} {id : String} {row : Row} (h : s.find? id = some row) :
    row ∈ s.rows ∧ row.id = id := by
  have hid := List.find?_some h
  exact ⟨List.mem_of_find?_eq_some h, by simpa using hid⟩

theorem ids_selected_nodup (s : Store) (text : String) (hints : List Hint) :
    ((s.selected text hints).map (·.id)).Nodup :=
  s.ids_nodup.sublist (List.filter_sublist.map _)

variable {s : Store} {held : Holdings}

theorem Represents.of_selected (h : s.Represents held) {text : String} {hint : Option String}
    {hints : List Hint} (hhints : searched? hint = some hints) {row : Row}
    (hrow : row ∈ s.selected text hints) :
    row.id ∈ held.owners text hint ∧ ∃ a, held row.id = some a ∧ a.WrittenAs row := by
  obtain ⟨hmem, hmatch⟩ := List.mem_filter.mp hrow
  have hfind := find?_of_mem hmem
  cases hheld : held row.id with
  | none =>
    rw [h.absent row.id hheld] at hfind
    cases hfind
  | some a =>
    obtain ⟨_, found, hfound, hwritten⟩ := h.written row.id a hheld
    rw [hfind] at hfound
    cases hfound
    obtain ⟨parsed, hparsed, htext⟩ := List.any_eq_true.mp hmatch
    have hname : parsed.name ∈ searchedNames hint := by
      rw [← searchedNames_of_searched? hhints]
      exact List.mem_map_of_mem hparsed
    exact ⟨⟨a, hheld, parsed.name, hname, hwritten.matchesHint_iff.mp htext⟩, a, rfl, hwritten⟩

theorem Represents.exists_selected (h : s.Represents held) {text : String} {hint : Option String}
    {hints : List Hint} (hhints : searched? hint = some hints) {id : String}
    (hid : id ∈ held.owners text hint) : ∃ row ∈ s.selected text hints, row.id = id := by
  obtain ⟨a, hheld, name, hname, htext⟩ := hid
  obtain ⟨_, row, hfind, hwritten⟩ := h.written id a hheld
  obtain ⟨hmem, hrow⟩ := id_of_find? hfind
  rw [← searchedNames_of_searched? hhints] at hname
  obtain ⟨parsed, hparsed, rfl⟩ := List.mem_map.mp hname
  refine ⟨row, List.mem_filter.mpr ⟨hmem, List.any_eq_true.mpr ⟨parsed, hparsed, ?_⟩⟩, hrow⟩
  exact hwritten.matchesHint_iff.mpr htext

/-! ## Lookups -/

theorem outcome_findById (s : Store) (directory : Directory) {id : String}
    (hid : Text.isBlankText id = false) :
    (s.findById directory id).outcome = (loadOnly directory (s.find? id).toList).outcome := by
  rw [findById, Traced.outcome_bind, outcome_requireText, hid]
  rfl

/-- Of rows selected only a single one is loaded. -/
theorem loadOnly_eq_some {directory : Directory} {rows : List Row} {a : Authorization}
    (h : (loadOnly directory rows).outcome = .ok (some a)) :
    ∃ row, rows = [row] ∧ (row.load directory).outcome = .ok a := by
  match rows with
  | [] => cases h
  | [row] =>
    rw [loadOnly, Traced.outcome_map] at h
    obtain ⟨b, hload, hsome⟩ := Except.map_eq_ok h
    cases hsome
    exact ⟨row, rfl, hload⟩
  | _ :: _ :: _ => cases h

theorem findById_eq_some {directory : Directory} {id : String} {a : Authorization}
    (h : (s.findById directory id).outcome = .ok (some a)) :
    ∃ row, s.find? id = some row ∧ (row.load directory).outcome = .ok a := by
  obtain ⟨_, _, hload⟩ := Traced.bind_eq_ok_iff.mp h
  obtain ⟨row, hrows, hrow⟩ := loadOnly_eq_some hload
  exact ⟨row, Option.toList_eq_singleton_iff.mp hrows, hrow⟩

/-- Under an id the row that stands there is loaded. -/
theorem outcome_findById_of_row {id : String} {row : Row} (hrow : s.find? id = some row)
    (hid : Text.isBlankText id = false) (directory : Directory) :
    (s.findById directory id).outcome = some <$> (row.load directory).outcome := by
  rw [outcome_findById s directory hid, hrow]
  exact Traced.outcome_map some (row.load directory)

theorem Represents.findById_of_none (h : s.Represents held) (directory : Directory) {id : String}
    (hid : Text.isBlankText id = false) (hheld : held id = none) :
    (s.findById directory id).outcome = .ok none := by
  rw [outcome_findById s directory hid, h.absent id hheld]
  rfl

/-- Under an id the row of the authorization held is loaded. -/
theorem Represents.findById_of_some (h : s.Represents held) (directory : Directory) {id : String}
    (hid : Text.isBlankText id = false) {a : Authorization} (hheld : held id = some a) :
    ∃ row, a.WrittenAs row ∧
      (s.findById directory id).outcome = some <$> (row.load directory).outcome := by
  obtain ⟨_, row, hfind, hwritten⟩ := h.written id a hheld
  exact ⟨row, hwritten, outcome_findById_of_row hfind hid directory⟩

theorem outcome_findByToken (s : Store) (directory : Directory) {text : String}
    {hint : Option String} {hints : List Hint} (htext : Text.isBlankText text = false)
    (hhints : searched? hint = some hints) :
    (s.findByToken directory text hint).outcome =
      (loadOnly directory (s.selected text hints)).outcome := by
  rw [findByToken, Traced.outcome_bind, outcome_requireText, htext, hhints]
  rfl

theorem outcome_findByToken_of_not_searched (s : Store) (directory : Directory) {text : String}
    {hint : Option String} (htext : Text.isBlankText text = false)
    (hhint : searched? hint = none) : (s.findByToken directory text hint).outcome = .ok none := by
  rw [findByToken, Traced.outcome_bind, outcome_requireText, htext, hhint]
  rfl

theorem outcome_findByToken_of_isBlank (s : Store) (directory : Directory) {text : String}
    (htext : Text.isBlankText text = true) (hint : Option String) :
    (s.findByToken directory text hint).outcome =
      .error (.failure (.precondition "token cannot be empty")) := by
  rw [findByToken, requireText_of_blank htext]
  rfl

theorem outcome_findByToken_of_blank (s : Store) (directory : Directory) {text : String}
    (htext : Text.isBlankText text = true) (hint : Option String) :
    ∃ message, (s.findByToken directory text hint).outcome =
      .error (.failure (.precondition message)) :=
  ⟨_, s.outcome_findByToken_of_isBlank directory htext hint⟩

/-- A lookup by token finds nothing where there are no owners, loads the row of an only owner and
names two owners where there is more than one. -/
theorem Represents.findByToken_cases (h : s.Represents held) (directory : Directory)
    {text : String} (htext : Text.isBlankText text = false) (hint : Option String) :
    (held.owners text hint = ∅ ∧ (s.findByToken directory text hint).outcome = .ok none) ∨
    (∃ id a row, held.owners text hint = {id} ∧ held id = some a ∧ a.WrittenAs row ∧
      (s.findByToken directory text hint).outcome = some <$> (row.load directory).outcome) ∨
    (∃ i j, i ≠ j ∧ i ∈ held.owners text hint ∧ j ∈ held.owners text hint ∧
      (s.findByToken directory text hint).outcome =
        .error (.failure (.ambiguousToken [i, j]))) := by
  cases hhints : searched? hint with
  | none =>
    left
    exact ⟨owners_of_not_searched hhints held text,
      outcome_findByToken_of_not_searched s directory htext hhints⟩
  | some hints =>
    rw [outcome_findByToken s directory htext hhints]
    have hselected : ∀ row ∈ s.selected text hints, row.id ∈ held.owners text hint ∧
        ∃ a, held row.id = some a ∧ a.WrittenAs row := fun row => h.of_selected hhints
    have howners : ∀ id ∈ held.owners text hint, ∃ row ∈ s.selected text hints, row.id = id :=
      fun id => h.exists_selected hhints
    have hnodup := s.ids_selected_nodup text hints
    match hrows : s.selected text hints with
    | [] =>
      left
      refine ⟨Set.eq_empty_iff_forall_notMem.mpr fun id hid => ?_, rfl⟩
      obtain ⟨row, hrow, _⟩ := howners id hid
      rw [hrows] at hrow
      cases hrow
    | [row] =>
      right
      left
      obtain ⟨hid, a, hheld, hwritten⟩ := hselected row (hrows ▸ List.mem_cons_self)
      refine ⟨row.id, a, row, ?_, hheld, hwritten, Traced.outcome_map some (row.load directory)⟩
      refine Set.eq_singleton_iff_unique_mem.mpr ⟨hid, fun id hother => ?_⟩
      obtain ⟨other, hmem, rfl⟩ := howners id hother
      rw [hrows, List.mem_singleton] at hmem
      rw [hmem]
    | first :: second :: rest =>
      right
      right
      have hfirst := hselected first (by rw [hrows]; simp)
      have hsecond := hselected second (by rw [hrows]; simp)
      refine ⟨first.id, second.id, ?_, hfirst.1, hsecond.1, rfl⟩
      rw [hrows] at hnodup
      simp only [List.map_cons, List.nodup_cons, List.mem_cons, not_or] at hnodup
      exact hnodup.1.1

/-! ## What is found -/

/-- What a lookup by id finds is the normal form of what is held under the id. -/
theorem Represents.findById_eq_some (h : s.Represents held)
    (hkeys : ∀ id a, held id = some a → a.KeysOnce) {directory : Directory} {id : String}
    {b : Authorization} (hfound : (s.findById directory id).outcome = .ok (some b)) :
    ∃ a, held id = some a ∧ b = a.normal := by
  cases hid : Text.isBlankText id with
  | true =>
    rw [findById, Traced.outcome_bind, outcome_requireText, hid] at hfound
    cases hfound
  | false =>
    cases ha : held id with
    | none =>
      rw [h.findById_of_none directory hid ha] at hfound
      cases hfound
    | some a =>
      obtain ⟨row, hwritten, hload⟩ := h.findById_of_some directory hid ha
      rw [hload] at hfound
      exact ⟨a, rfl, (hwritten.of_found (hkeys id a ha) hfound).2⟩

/-- What a search by token finds is the normal form of an authorization that is held and owns the
text. -/
theorem Represents.findByToken_eq_some (h : s.Represents held)
    (hkeys : ∀ id a, held id = some a → a.KeysOnce) {directory : Directory} {text : String}
    {hint : Option String} {b : Authorization}
    (hfound : (s.findByToken directory text hint).outcome = .ok (some b)) :
    ∃ id a, held id = some a ∧ held.owners text hint = {id} ∧ b = a.normal ∧
      directory.Registered a.registeredClientId := by
  cases htext : Text.isBlankText text with
  | true =>
    obtain ⟨message, hmessage⟩ := s.outcome_findByToken_of_blank directory htext hint
    rw [hmessage] at hfound
    cases hfound
  | false =>
    rcases h.findByToken_cases directory htext hint with
      ⟨_, hnone⟩ | ⟨id, a, row, howners, ha, hwritten, hload⟩ | ⟨i, j, _, _, _, hseveral⟩
    · rw [hnone] at hfound
      cases hfound
    · rw [hload] at hfound
      obtain ⟨hclient, hnormal⟩ := hwritten.of_found (hkeys id a ha) hfound
      exact ⟨id, a, ha, howners, hnormal, hclient⟩
    · rw [hseveral] at hfound
      cases hfound

end Store
end GrantKeeper
