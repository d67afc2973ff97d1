/-
Which scopes an active verdict tells.

A token is saved with a set of scopes and judged by the set that its column gives back, so a verdict
tells the pieces of the saved scopes between commas, trimmed, and the response those of them between
blanks (`introspect_saved_scopes`).  Where no saved scope has a comma, a blank at an end, or a blank
between others, nothing but saved scopes is told.  A scope with a comma is told as two.
-/
import GrantKeeper.Proofs.Grant.AccessFields
import GrantKeeper.Proofs.Introspection.Response
import GrantKeeper.Proofs.Service.Hint
import GrantKeeper.Proofs.Service.Saved

namespace GrantKeeper

open Service

/-- An access token is found by its value where the code before it has another. -/
theorem Authorization.find?_access {a : Authorization} {t : Token} (ht : a.tokens .access = some t)
    (hcode : ∀ code, a.tokens .code = some code → code.value ≠ t.value) :
    a.find? t.value = some (.access, t) := by
  unfold find? held
  -- Of the slots only that of the code is asked before this one.
  simp only [Slot.all, List.filterMap_cons, ht, Option.map_some]
  cases hfirst : a.tokens .code with
  | none => exact List.find?_cons_of_pos (beq_self_eq_true t.value)
  | some code =>
    rw [Option.map_some, List.find?_cons_of_neg (by simpa using hcode code hfirst)]
    exact List.find?_cons_of_pos (beq_self_eq_true t.value)

namespace Service

/-- The only row that holds a value of a saved authorization is loaded as its normal form, by
whatever hint it is found. -/
theorem found_of_saved {s : Service} {a : Authorization} (hkeys : a.KeysOnce)
    (hsaved : (s.perform (.save (some a))).2.outcome = .ok .done) {later : List Request}
    (hlater : ∀ request ∈ later, request.Spares a.id) {value : String}
    (honly : ∀ row ∈ (s.run (.save (some a) :: later)).store.rows, row.Holds value → row.id = a.id)
    {hint : Option String} {b : Authorization}
    (hfound : ((s.run (.save (some a) :: later)).store.findByToken
      (s.run (.save (some a) :: later)).directory value hint).outcome = .ok (some b)) :
    b = a.normal := by
  obtain ⟨_, row, hrow, hwritten⟩ := exists_row_of_saved hsaved hlater
  obtain ⟨found, hmem, hholds, hload⟩ := Store.findByToken_eq_some hfound
  have hfind := Store.find?_of_mem hmem
  rw [honly found hmem hholds, hrow] at hfind
  cases hfind
  exact ((Row.load_eq_ok_iff hwritten hkeys).mp hload).2.2

end Service

/-- An active verdict about the access token of a saved authorization tells the pieces of the saved
scopes between commas, trimmed, and every item of the response's scope member is one of these or a
piece of one between spaces.  Where no saved scope has a comma or a blank at an end only saved
scopes are told, and where none has a space either, no item is anything else. -/
theorem introspect_saved_scopes {s : Service} {a : Authorization} (hkeys : a.KeysOnce) {t : Token}
    (ht : a.tokens .access = some t) (hsaved : (s.perform (.save (some a))).2.outcome = .ok .done)
    {later : List Request} (hlater : ∀ request ∈ later, request.Spares a.id)
    (hcode : ∀ code, a.tokens .code = some code → code.value ≠ t.value)
    (honly : ∀ row ∈ (s.run (.save (some a) :: later)).store.rows,
      row.Holds t.value → row.id = a.id)
    {clock : Timestamp} {requester hint : Option String} {verdict : Verdict}
    (hverdict : ((s.run (.save (some a) :: later)).store.introspect
      (s.run (.save (some a) :: later)).directory clock t.value requester hint).outcome =
        .ok verdict)
    (hactive : verdict.active = true) :
    ∃ told members text, verdict.scopes = some told ∧ verdict.response = .ok members ∧
      members.get? "scope" = some (.text text) ∧
      (∀ scope, scope ∈ told ↔ t.scopes.Piece scope) ∧
      (∀ item ∈ Text.pieces ' ' text.toList, item ≠ [] →
        ∃ scope ∈ told, item ∈ Text.pieces ' ' scope.toList) ∧
      ((∀ scope ∈ t.scopes, scope ≠ "" → ScopeSet.ColumnScope scope) →
        (∀ scope ∈ told, scope ∈ t.scopes) ∧
        ((∀ scope ∈ t.scopes, ' ' ∉ scope.toList) →
          ∀ item ∈ Text.pieces ' ' text.toList, item ≠ [] → String.ofList item ∈ t.scopes)) := by
  obtain ⟨searched, found, hfound, hdecided⟩ := Store.introspect_eq_ok hverdict
  obtain ⟨b, _, _, _, rfl, _⟩ := introspect_active hdecided hactive
  obtain rfl := Service.found_of_saved hkeys hsaved hlater honly hfound
  have hfind : a.normal.find? t.value = some (.access, t.normalIn .access) := by
    rw [a.find?_normal, Authorization.find?_access ht hcode, Option.map_some]
  obtain ⟨hscopes, members, hresponse, htext⟩ := introspect_scopes hfind hdecided hactive
  have hpiece : ∀ scope, scope ∈ (t.normalIn .access).scopes ↔ t.scopes.Piece scope := fun scope =>
    ((t.isNormalFormOf_normalIn .access).scopes scope).trans (and_iff_right rfl)
  have hitems : ∀ item ∈ Text.pieces ' ' ((t.normalIn .access).scopes.textWith ' ').toList,
      item ≠ [] → ∃ scope ∈ (t.normalIn .access).scopes, item ∈ Text.pieces ' ' scope.toList :=
    fun item hitem hne => ScopeSet.mem_pieces_textWith hitem hne
  refine ⟨_, members, _, hscopes, hresponse, htext, hpiece, hitems, fun hwhole => ?_⟩
  have hsubset : ∀ scope ∈ (t.normalIn .access).scopes, scope ∈ t.scopes := fun scope hscope =>
    ((ScopeSet.piece_iff_of_columnScope hwhole).mp ((hpiece scope).mp hscope)).1
  refine ⟨hsubset, fun hblank item hitem hne => ?_⟩
  obtain ⟨scope, hscope, hpart⟩ := hitems item hitem hne
  rw [Text.pieces_of_not_mem (hblank scope (hsubset scope hscope)), List.mem_singleton] at hpart
  rw [hpart, String.ofList_toList]
  exact hsubset scope hscope

/-! ## A service with one authorization -/

theorem leavesReserved_nil : Claims.LeavesReserved [] := fun _ _ => rfl

/-- An access token with some scopes. -/
def scopedToken (scopes : List String) : Token :=
  { sampleToken with
    metadata := []
    claims := none
    scopes := .ofList scopes
    leavesReserved := leavesReserved_nil }

/-- An authorization with that token only. -/
def scopedAuthorization (scopes : List String) : Authorization :=
  { sampleAuthorization with
    attributes := []
    tokens := Slot.table none (some (scopedToken scopes)) none none }

theorem scopedAuthorization_wellFormed (scopes : List String) :
    (scopedAuthorization scopes).WellFormed where
  valid := Authorization.brokenRule?_eq_none_iff.mp rfl
  keysOnce := Authorization.keysOnce_of_all rfl rfl

/-- What a token was saved with for scopes, its verdict tells. -/
theorem introspect_saved_scopes_sample :
    ∃ verdict : Verdict, ∃ told,
      ((openService.run [.save (some (scopedAuthorization ["read"]))]).store.introspect
        (openService.run [.save (some (scopedAuthorization ["read"]))]).directory
        (.naive ⟨500000, by decide⟩) "at-1" none (some "refresh_token")).outcome = .ok verdict ∧
      verdict.scopes = some told ∧
      ∀ scope, scope ∈ told ↔ (ScopeSet.ofList ["read"]).Piece scope := by
  obtain ⟨verdict, hverdict, hactive⟩ : ∃ verdict : Verdict,
      ((openService.run [.save (some (scopedAuthorization ["read"]))]).store.introspect
        (openService.run [.save (some (scopedAuthorization ["read"]))]).directory
        (.naive ⟨500000, by decide⟩) "at-1" none (some "refresh_token")).outcome = .ok verdict ∧
      verdict.active = true := ⟨_, rfl, rfl⟩
  have hlater : ∀ request ∈ ([] : List Request), request.Spares "a1" := fun _ h => by cases h
  obtain ⟨told, _, _, htold, _, _, hpiece, _⟩ :=
    introspect_saved_scopes (scopedAuthorization_wellFormed ["read"]).keysOnce rfl rfl hlater
      (fun _ h => by cases h) (fun row hrow _ => openService.id_of_mem_run_save rfl _ row hrow)
      hverdict hactive
  exact ⟨verdict, told, hverdict, htold, hpiece⟩

/-- It is not so that only saved scopes are told: of one with a comma the part before it is told. -/
theorem introspect_not_only_saved_scopes :
    ¬∀ (s : Service) (a : Authorization) (t : Token), a.WellFormed → a.tokens .access = some t →
      (s.perform (.save (some a))).2.outcome = .ok .done →
      Text.isBlankText t.value = false →
      (∀ code, a.tokens .code = some code → code.value ≠ t.value) →
      (∀ row ∈ (s.run [.save (some a)]).store.rows, row.Holds t.value → row.id = a.id) →
      ∀ clock requester hint verdict,
        ((s.run [.save (some a)]).store.introspect (s.run [.save (some a)]).directory clock t.value
          requester hint).outcome = .ok verdict →
        verdict.active = true → ∀ told, verdict.scopes = some told → ∀ scope ∈ told,
          scope ∈ t.scopes := by
  intro hsaved
  obtain ⟨verdict, hverdict, hactive, hscopes⟩ : ∃ verdict : Verdict,
      ((openService.run [.save (some (scopedAuthorization ["read,admin"]))]).store.introspect
        (openService.run [.save (some (scopedAuthorization ["read,admin"]))]).directory
        (.naive ⟨500000, by decide⟩) "at-1" none none).outcome = .ok verdict ∧
      verdict.active = true ∧
      verdict.scopes = some (ScopeSet.ofList ["read,admin"]).normal := ⟨_, rfl, rfl, rfl⟩
  have htold : "read" ∈ (ScopeSet.ofList ["read,admin"]).normal :=
    ScopeSet.mem_normal_iff.mpr ⟨by decide, "read,admin", List.mem_singleton_self _, "read".toList,
      by decide, by decide⟩
  have hmem := hsaved openService _ _ (scopedAuthorization_wellFormed ["read,admin"]) rfl rfl rfl
    (fun _ h => by cases h) (fun row hrow _ => openService.id_of_mem_run_save rfl _ row hrow) _ _ _
    verdict hverdict hactive _ hscopes "read" htold
  rw [scopedToken, ScopeSet.mem_ofList, List.mem_singleton] at hmem
  exact absurd hmem (by decide)

end GrantKeeper
