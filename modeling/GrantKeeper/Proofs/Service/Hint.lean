/-
A hint never changes a verdict where no two rows hold the value.

A hint only narrows the search: of at most one row it selects that row or none
(`selected_eq_nil_or_all`).  In the first case the same row is loaded as without a hint, and an error
on the way is the same error; in the second, as for a hint that cannot be searched by, the search
without a hint is made after all.  Nothing is asked of the rows themselves, so that this holds of
damaged ones too.
-/
import GrantKeeper.Proofs.Service.Introspection

namespace GrantKeeper

open Service

/-- A row that holds a text where texts are looked up: as the state, or as the value of a token other
than the id token. -/
def Row.Holds (row : Row) (text : String) : Prop :=
  row.state = some text ∨ ∃ slot, slot ≠ .id ∧ (row.tokens slot).value = some text.toUTF8

/-- What a hint finds a row by, the row holds; and for what it holds there is a hint. -/
theorem Row.matchesHint_any_all (row : Row) (text : String) :
    Hint.all.any (row.matchesHint text) = true ↔ row.Holds text := by
  have hslot : ∀ slot, ((row.tokens slot).value == some text.toUTF8) = true ↔
      (row.tokens slot).value = some text.toUTF8 := fun slot => beq_iff_eq
  rw [List.any_eq_true]
  constructor
  · rintro ⟨hint, _, hmatch⟩
    cases hint with
    | state => exact Or.inl (beq_iff_eq.mp hmatch)
    | code => exact Or.inr ⟨.code, by decide, (hslot .code).mp hmatch⟩
    | access => exact Or.inr ⟨.access, by decide, (hslot .access).mp hmatch⟩
    | refresh => exact Or.inr ⟨.refresh, by decide, (hslot .refresh).mp hmatch⟩
  · rintro (hstate | ⟨slot, hid, hvalue⟩)
    · exact ⟨.state, by decide, beq_iff_eq.mpr hstate⟩
    · cases slot with
      | code => exact ⟨.code, by decide, (hslot .code).mpr hvalue⟩
      | access => exact ⟨.access, by decide, (hslot .access).mpr hvalue⟩
      | id => exact absurd rfl hid
      | refresh => exact ⟨.refresh, by decide, (hslot .refresh).mpr hvalue⟩

namespace Store

/-- A store of which at most one row holds a text. -/
def HeldOnce (s : Store) (text : String) : Prop :=
  ∀ r ∈ s.rows, ∀ r' ∈ s.rows, r.Holds text → r'.Holds text → r = r'

variable {s : Store} {text : String}

theorem mem_hints_all (hint : Hint) : hint ∈ Hint.all := by
  cases hint <;> decide

/-- What some hints select is selected among the rows that all of them select. -/
theorem selected_eq_filter (s : Store) (text : String) (hints : List Hint) :
    s.selected text hints =
      (s.selected text Hint.all).filter fun row => hints.any (row.matchesHint text) := by
  unfold selected
  rw [List.filter_filter]
  refine List.filter_congr fun row _ => ?_
  cases hany : hints.any (row.matchesHint text) with
  | false => rfl
  | true =>
    obtain ⟨hint, _, hmatch⟩ := List.any_eq_true.mp hany
    have hall : Hint.all.any (row.matchesHint text) = true :=
      List.any_eq_true.mpr ⟨hint, mem_hints_all hint, hmatch⟩
    rw [hall, Bool.and_self]

/-- What a search finds is loaded from a row that holds the text. -/
theorem findByToken_eq_some {directory : Directory} {hint : Option String} {a : Authorization}
    (h : (s.findByToken directory text hint).outcome = .ok (some a)) :
    ∃ row ∈ s.rows, row.Holds text ∧ (row.load directory).outcome = .ok a := by
  obtain ⟨_, _, h⟩ := Traced.bind_eq_ok_iff.mp h
  cases hhints : searched? hint with
  | none =>
    rw [hhints] at h
    obtain ⟨_, _, h⟩ := Traced.bind_eq_ok_iff.mp h
    cases h
  | some hints =>
    rw [hhints] at h
    obtain ⟨row, hrows, hload⟩ := loadOnly_eq_some h
    have hselected : row ∈ s.selected text hints := hrows ▸ List.mem_singleton_self row
    rw [s.selected_eq_filter text hints] at hselected
    obtain ⟨hmem, hmatch⟩ := List.mem_filter.mp (List.mem_filter.mp hselected).1
    exact ⟨row, hmem, (row.matchesHint_any_all text).mp hmatch, hload⟩

theorem HeldOnce.length_selected_le_one (h : s.HeldOnce text) :
    (s.selected text Hint.all).length ≤ 1 := by
  have hsame : ∀ r ∈ s.selected text Hint.all, ∀ r' ∈ s.selected text Hint.all, r = r' := by
    intro r hr r' hr'
    obtain ⟨hmem, hmatch⟩ := List.mem_filter.mp hr
    obtain ⟨hmem', hmatch'⟩ := List.mem_filter.mp hr'
    exact h r hmem r' hmem' ((r.matchesHint_any_all text).mp hmatch)
      ((r'.matchesHint_any_all text).mp hmatch')
  have hnodup := s.ids_selected_nodup text Hint.all
  match hrows : s.selected text Hint.all with
  | [] => exact Nat.zero_le 1
  | [row] => exact Nat.le_refl 1
  | first :: second :: rest =>
    rw [hrows] at hsame hnodup
    have heq : first = second := hsame first (by simp) second (by simp)
    rw [List.map_cons, List.map_cons, List.nodup_cons] at hnodup
    exact absurd (by rw [heq]; exact List.mem_cons_self) hnodup.1

/-- Of at most one row a narrower search selects either nothing or all there is. -/
theorem HeldOnce.selected_eq_nil_or_all (h : s.HeldOnce text) (hints : List Hint) :
    s.selected text hints = [] ∨ s.selected text hints = s.selected text Hint.all := by
  have hlength := h.length_selected_le_one
  rw [s.selected_eq_filter text hints]
  match hrows : s.selected text Hint.all with
  | [] => exact Or.inl rfl
  | [row] =>
    rw [List.filter_singleton]
    cases hints.any (row.matchesHint text) with
    | true => exact Or.inr rfl
    | false => exact Or.inl rfl
  | first :: second :: rest =>
    rw [hrows] at hlength
    simp at hlength

theorem heldOnce_of_id {id : String} (h : ∀ row ∈ s.rows, row.Holds text → row.id = id) :
    s.HeldOnce text := by
  intro r hr r' hr' hholds hholds'
  have hfind := find?_of_mem hr
  have hfind' := find?_of_mem hr'
  rw [h r hr hholds] at hfind
  rw [h r' hr' hholds', hfind] at hfind'
  exact Option.some_inj.mp hfind'

/-- The only row that holds a text is selected by the hints that it matches. -/
theorem HeldOnce.selected_eq_singleton (h : s.HeldOnce text) {row : Row} (hrow : row ∈ s.rows)
    {hints : List Hint} (hmatch : hints.any (row.matchesHint text) = true) :
    s.selected text hints = [row] := by
  have hmem : row ∈ s.selected text hints := List.mem_filter.mpr ⟨hrow, hmatch⟩
  have hlength : (s.selected text hints).length ≤ 1 := by
    rcases h.selected_eq_nil_or_all hints with hnil | hall
    · rw [hnil]
      exact Nat.zero_le 1
    · rw [hall]
      exact h.length_selected_le_one
  match hrows : s.selected text hints with
  | [] =>
    rw [hrows] at hmem
    cases hmem
  | [first] =>
    rw [hrows, List.mem_singleton] at hmem
    rw [hmem]
  | first :: second :: rest =>
    rw [hrows] at hlength
    simp at hlength

/-- A search by a hint finds nothing, or ends as the search without one does. -/
theorem HeldOnce.findByToken_cases (h : s.HeldOnce text) (directory : Directory)
    (hint : Option String) :
    (s.findByToken directory text hint).outcome = .ok none ∨
      (s.findByToken directory text hint).outcome =
        (s.findByToken directory text none).outcome := by
  cases htext : Text.isBlankText text with
  | true =>
    right
    simp only [findByToken, Traced.outcome_bind, outcome_requireText, htext, if_true]
    rfl
  | false =>
    cases hhints : searched? hint with
    | none => exact Or.inl (s.outcome_findByToken_of_not_searched directory htext hhints)
    | some hints =>
      rw [s.outcome_findByToken directory htext hhints, s.outcome_findByToken directory htext rfl]
      rcases h.selected_eq_nil_or_all hints with hnil | hall
      · left
        rw [hnil]
        rfl
      · right
        rw [hall]

/-- With a hint the verdict is that of the search without one. -/
theorem HeldOnce.introspect_eq (h : s.HeldOnce text) (directory : Directory) (clock : Timestamp)
    (requester hint : Option String) :
    (s.introspect directory clock text requester hint).outcome =
      (s.findByToken directory text none).outcome >>= fun found =>
        (GrantKeeper.introspect (some directory) clock requester text found).outcome := by
  rw [outcome_introspect]
  cases hint with
  | none => simp only [Option.isSome_none, Bool.and_false, Bool.false_eq_true, if_false]
  | some hint =>
    rcases h.findByToken_cases directory (some hint) with hnone | hsame
    · rw [hnone]
      rfl
    · rw [hsame]
      cases hfound : (s.findByToken directory text none).outcome with
      | error fault => rfl
      | ok found =>
        -- Where the same search found nothing, repeating it changes nothing.
        cases found with
        | none => rfl
        | some a => rfl

end Store

/-- Where at most one row of a store holds a value, introspecting it has one outcome, a verdict or a
fault, whatever the hint: right or wrong, not searchable or not given. -/
theorem introspect_any_hint {s : Store} {value : String} (honce : s.HeldOnce value)
    (directory : Directory) (clock : Timestamp) (requester hint hint' : Option String) :
    (s.introspect directory clock value requester hint).outcome =
      (s.introspect directory clock value requester hint').outcome := by
  rw [honce.introspect_eq, honce.introspect_eq]

/-- The access token of the sample is found under a wrong hint, the name of the id token and no hint
alike. -/
theorem introspect_any_hint_sample :
    (empty.run issuedRequests).store.HeldOnce "at-1" ∧
    ∀ hint ∈ [some "refresh_token", some "id_token"],
      ((empty.run issuedRequests).store.introspect (empty.run issuedRequests).directory
        (.naive ⟨500000, by decide⟩) "at-1" none hint).outcome =
      ((empty.run issuedRequests).store.introspect (empty.run issuedRequests).directory
        (.naive ⟨500000, by decide⟩) "at-1" none none).outcome := by
  have honce : (empty.run issuedRequests).store.HeldOnce "at-1" := by
    obtain ⟨row, hrows⟩ : ∃ row, (empty.run issuedRequests).store.rows = [row] := ⟨_, rfl⟩
    intro r hr r' hr' _ _
    rw [hrows, List.mem_singleton] at hr hr'
    rw [hr, hr']
  exact ⟨honce, fun hint _ => introspect_any_hint honce _ _ none hint none⟩

end GrantKeeper
