/-
The row of an authorization that was saved.

Whatever else is in the store, saving that succeeds leaves the row that the authorization is written
as, and requests that neither save nor remove anything under its id leave that row alone
(`exists_row_of_saved`).  Nothing is asked of the other rows.
-/
import GrantKeeper.Proofs.Service.Refinement

namespace GrantKeeper

/-- A request that neither saves nor removes an authorization of an id. -/
def Request.Spares (id : String) : Request → Prop
  | .save (some a) | .remove (some a) => a.id ≠ id
  | _ => True

theorem Store.find?_after {s : Store} {operation : Traced Store} {id : String}
    (h : ∀ s', operation.outcome = .ok s' → s'.find? id = s.find? id) :
    (s.after operation).find? id = s.find? id := by
  unfold after
  cases hoperation : operation.outcome with
  | ok s' => exact h s' hoperation
  | error fault => rfl

namespace Service

theorem find?_perform_of_spares (s : Service) {id : String} {request : Request}
    (h : request.Spares id) : (s.perform request).1.store.find? id = s.store.find? id := by
  cases request with
  | save authorization =>
    rw [perform_save]
    refine Store.find?_after fun s' hsave => ?_
    obtain ⟨a, row, rfl, _, hrow, rfl⟩ := Store.save_eq_ok_iff.mp hsave
    have hid := (Authorization.writtenAs_of_toRow hrow).id
    exact s.store.find?_put_of_ne fun hsame => h (hid.symm.trans hsame.symm)
  | remove authorization =>
    refine Store.find?_after fun s' hremove => ?_
    obtain ⟨a, rfl, _, rfl⟩ := Store.remove_eq_ok_iff.mp hremove
    exact s.store.find?_erase_of_ne (Ne.symm h)
  | register client => rfl
  | unregister client => rfl
  | findById id => rfl
  | findByToken text hint => rfl
  | introspect clock value requester hint => rfl

theorem find?_run_of_spares {id : String} {requests : List Request}
    (h : ∀ request ∈ requests, request.Spares id) (s : Service) :
    (s.run requests).store.find? id = s.store.find? id := by
  induction requests generalizing s with
  | nil => rfl
  | cons request rest ih =>
    have hrest := ih (fun r hr => h r (List.mem_cons_of_mem request hr)) (s.perform request).1
    exact hrest.trans (s.find?_perform_of_spares (h request List.mem_cons_self))

/-- A save that succeeds leaves the store that it makes. -/
theorem store_perform_save (s : Service) {authorization : Option Authorization} {s' : Store}
    (h : (s.store.save authorization).outcome = .ok s') :
    (s.perform (.save authorization)).1.store = s' := by
  rw [perform_save]
  show s.store.after (s.store.save authorization) = s'
  rw [Store.after, h]

/-- After a save that succeeded the row under the id is that of what was saved, until another is
saved or removed there. -/
theorem exists_row_of_saved {s : Service} {a : Authorization}
    (hsaved : (s.perform (.save (some a))).2.outcome = .ok .done) {later : List Request}
    (hlater : ∀ request ∈ later, request.Spares a.id) :
    Text.isBlankText a.id = false ∧
      ∃ row, (s.run (.save (some a) :: later)).store.find? a.id = some row ∧ a.WrittenAs row := by
  rw [perform_save, Traced.outcome_map] at hsaved
  obtain ⟨s', hsave, _⟩ := Except.map_eq_ok hsaved
  have hstore := s.store_perform_save hsave
  obtain ⟨b, row, hsame, hblank, hrow, rfl⟩ := Store.save_eq_ok_iff.mp hsave
  cases hsame
  have hwritten := Authorization.writtenAs_of_toRow hrow
  refine ⟨hblank, row, ?_, hwritten⟩
  have hrun := find?_run_of_spares hlater (s.perform (.save (some a))).1
  rw [hstore, ← hwritten.id, Store.find?_put_self] at hrun
  rw [← hwritten.id]
  exact hrun

/-- What is saved where nothing is stored has the only row. -/
theorem id_of_mem_run_save {s : Service} (h : s.store = .empty) (a : Authorization) :
    ∀ row ∈ (s.run [.save (some a)]).store.rows, row.id = a.id := by
  intro row hrow
  have hstore : (s.run [.save (some a)]).store = s.store.after (s.store.save (some a)) :=
    congrArg (fun answer => answer.1.store) (s.perform_save (some a))
  rw [hstore, h, Store.after] at hrow
  cases hsave : (Store.empty.save (some a)).outcome with
  | error fault =>
    rw [hsave] at hrow
    cases hrow
  | ok s' =>
    obtain ⟨b, written, hsame, _, hwritten, rfl⟩ := Store.save_eq_ok_iff.mp hsave
    cases hsame
    rw [hsave] at hrow
    rw [List.mem_singleton.mp hrow, (Authorization.writtenAs_of_toRow hwritten).id]

end Service

/-- A service with one client registered and nothing stored. -/
def openService : Service := (Service.empty.perform (.register sampleClient)).1

end GrantKeeper
