/-
The history of a service, and the store as its outcome.

`Service.lastSaved` says what a run of requests ought to leave under each id, going by the requests
and by which of them succeeded: the authorization saved last, unless it was removed since.  It knows
nothing of rows.  Every run keeps the rows to it (`represents_run`): the row of an id is what the
authorization last saved under it is written as, whatever was there before and whatever was done to
other ids.
-/
import GrantKeeper.Proofs.Store.RoundTrip
import GrantKeeper.Proofs.Store.Session
import GrantKeeper.Service

namespace GrantKeeper

/-! ## Saving and removing -/

theorem outcome_requireText (s name : String) :
    (requireText s name).outcome =
      if Text.isBlankText s then .error (.failure (.precondition s!"{name} cannot be empty"))
      else .ok () := by
  unfold requireText
  split <;> rfl

theorem requireText_of_blank {s : String} (h : Text.isBlankText s = true) (name : String) :
    requireText s name = Traced.fail (.precondition s!"{name} cannot be empty") := by
  rw [requireText, if_pos h]

theorem requireText_of_not_blank {s : String} (h : Text.isBlankText s = false) (name : String) :
    requireText s name = pure () := by
  rw [requireText, h]
  rfl

namespace Store

theorem requireIdentified_eq_ok_iff {authorization : Option Authorization} {a : Authorization} :
    (requireIdentified authorization).outcome = .ok a ↔
      authorization = some a ∧ Text.isBlankText a.id = false := by
  cases authorization with
  | none => simp [requireIdentified]
  | some b =>
    simp only [requireIdentified, Traced.outcome_bind, outcome_requireText, Option.some_inj]
    cases hblank : Text.isBlankText b.id with
    | true =>
      refine ⟨fun h => (by cases h), ?_⟩
      rintro ⟨rfl, ha⟩
      rw [hblank] at ha
      cases ha
    | false =>
      refine ⟨fun h => ?_, ?_⟩
      · cases h
        exact ⟨rfl, hblank⟩
      · rintro ⟨rfl, _⟩
        rfl

theorem save_eq_ok_iff {s s' : Store} {authorization : Option Authorization} :
    (s.save authorization).outcome = .ok s' ↔
      ∃ a row, authorization = some a ∧ Text.isBlankText a.id = false ∧ a.toRow = .ok row ∧
        s' = s.put row := by
  unfold save
  rw [Traced.bind_eq_ok_iff]
  constructor
  · rintro ⟨a, ha, h⟩
    obtain ⟨rfl, hblank⟩ := requireIdentified_eq_ok_iff.mp ha
    obtain ⟨_, _, h⟩ := Traced.bind_eq_ok_iff.mp h
    obtain ⟨row, hrow, h⟩ := Traced.bind_eq_ok_iff.mp h
    exact ⟨a, row, rfl, hblank, hrow, (Except.ok.inj h).symm⟩
  · rintro ⟨a, row, rfl, hblank, hrow, rfl⟩
    exact ⟨a, requireIdentified_eq_ok_iff.mpr ⟨rfl, hblank⟩,
      Traced.bind_eq_ok_iff.mpr ⟨(), rfl, Traced.bind_eq_ok_iff.mpr ⟨row, hrow, rfl⟩⟩⟩

theorem remove_eq_ok_iff {s s' : Store} {authorization : Option Authorization} :
    (s.remove authorization).outcome = .ok s' ↔
      ∃ a, authorization = some a ∧ Text.isBlankText a.id = false ∧ s' = s.erase a.id := by
  unfold remove
  rw [Traced.bind_eq_ok_iff]
  constructor
  · rintro ⟨a, ha, h⟩
    obtain ⟨rfl, hblank⟩ := requireIdentified_eq_ok_iff.mp ha
    obtain ⟨_, _, h⟩ := Traced.bind_eq_ok_iff.mp h
    exact ⟨a, rfl, hblank, (Except.ok.inj h).symm⟩
  · rintro ⟨a, rfl, hblank, rfl⟩
    exact ⟨a, requireIdentified_eq_ok_iff.mpr ⟨rfl, hblank⟩, rfl⟩

end Store

/-! ## History -/

/-- What is held under each id. -/
abbrev Holdings := String → Option Authorization

/-- What is held under each id after a request that succeeded. -/
def Request.effect (request : Request) (held : Holdings) : Holdings :=
  match request with
  | .save (some a) => fun id => if id = a.id then some a else held id
  | .remove (some a) => fun id => if id = a.id then none else held id
  | _ => held

/-- What is held after a request was held before it or is what the request saves. -/
theorem Request.effect_cases (request : Request) {held : Holdings} {id : String}
    {a : Authorization} (h : request.effect held id = some a) :
    held id = some a ∨ request = .save (some a) := by
  unfold effect at h
  split at h
  · next b =>
    split at h
    · cases h
      exact Or.inr rfl
    · exact Or.inl h
  · split at h
    · cases h
    · exact Or.inl h
  · exact Or.inl h

namespace Service

theorem run_append (s : Service) (first second : List Request) :
    s.run (first ++ second) = (s.run first).run second :=
  List.foldl_append

/-- Saving in a session is an operation on the store like any other. -/
theorem perform_save (s : Service) (authorization : Option Authorization) :
    s.perform (.save authorization) =
      (s.withStore (s.store.save authorization),
        (fun _ => .done) <$> s.store.save authorization) := by
  rw [perform, Store.saveInSession_eq]
  dsimp only
  rw [← comp_map]
  rfl

/-- What is held after a request: one that fails changes nothing. -/
def record (s : Service) (held : Holdings) (request : Request) : Holdings :=
  match (s.perform request).2.outcome with
  | .ok _ => request.effect held
  | .error _ => held

theorem record_cases (s : Service) (held : Holdings) (request : Request) :
    s.record held request = held ∨ s.record held request = request.effect held := by
  unfold record
  cases (s.perform request).2.outcome with
  | ok reply => exact Or.inr rfl
  | error fault => exact Or.inl rfl

theorem record_of_effect {s : Service} {held : Holdings} {request : Request}
    (h : request.effect held = held) : s.record held request = held := by
  rcases s.record_cases held request with hrecord | hrecord
  · exact hrecord
  · exact hrecord.trans h

def recordAll (s : Service) (held : Holdings) : List Request → Holdings
  | [] => held
  | request :: rest => recordAll (s.perform request).1 (s.record held request) rest

/-- The authorization saved last under each id and not removed since, in a run that starts with
nothing stored. -/
def lastSaved (requests : List Request) : Holdings :=
  empty.recordAll (fun _ => none) requests

end Service

/-- The rows of a store are what the held authorizations are written as. -/
structure Store.Represents (s : Store) (held : Holdings) : Prop where
  absent : ∀ id, held id = none → s.find? id = none
  written : ∀ id a, held id = some a → a.id = id ∧ ∃ row, s.find? id = some row ∧ a.WrittenAs row

namespace Store.Represents

variable {s : Store} {held : Holdings}

theorem empty : Store.empty.Represents fun _ => none where
  absent _ _ := rfl
  written _ _ h := by cases h

/-- A store that differs in the row of one id only represents what differs there only. -/
theorem of_others (h : s.Represents held) {s' : Store} {changed : String}
    {now : Option Authorization}
    (hothers : ∀ id, id ≠ changed → s'.find? id = s.find? id)
    (habsent : now = none → s'.find? changed = none)
    (hwritten : ∀ a, now = some a →
      a.id = changed ∧ ∃ row, s'.find? changed = some row ∧ a.WrittenAs row) :
    s'.Represents fun id => if id = changed then now else held id := by
  refine ⟨fun id hid => ?_, fun id a hid => ?_⟩
  · by_cases hsame : id = changed
    · rw [if_pos hsame] at hid
      rw [hsame]
      exact habsent hid
    · rw [if_neg hsame] at hid
      rw [hothers id hsame]
      exact h.absent id hid
  · by_cases hsame : id = changed
    · rw [if_pos hsame] at hid
      rw [hsame]
      exact hwritten a hid
    · rw [if_neg hsame] at hid
      rw [hothers id hsame]
      exact h.written id a hid

theorem put (h : s.Represents held) {a : Authorization} {row : Row} (hrow : a.toRow = .ok row) :
    (s.put row).Represents fun id => if id = a.id then some a else held id := by
  have hwritten := Authorization.writtenAs_of_toRow hrow
  have hself : (s.put row).find? a.id = some row := by
    rw [← hwritten.id]
    exact find?_put_self s row
  refine h.of_others (fun id hne => find?_put_of_ne s (hwritten.id ▸ hne)) (fun hnone => ?_)
    fun b hb => ?_
  · cases hnone
  · cases hb
    exact ⟨rfl, row, hself, hwritten⟩

theorem erase (h : s.Represents held) (removed : String) :
    (s.erase removed).Represents fun id => if id = removed then none else held id := by
  refine h.of_others (fun id hne => find?_erase_of_ne s hne) (fun _ => find?_erase_self s removed)
    fun a ha => ?_
  cases ha

/-- A request that leaves the store to an operation changes what is held where that succeeds. -/
theorem withStore {s : Service} (h : s.store.Represents held) {request : Request}
    {operation : Traced Store}
    (hperform : s.perform request = (s.withStore operation, (fun _ => .done) <$> operation))
    (hmade : ∀ s', operation.outcome = .ok s' → s'.Represents (request.effect held)) :
    (s.perform request).1.store.Represents (s.record held request) := by
  rw [Service.record, hperform, Traced.outcome_map]
  show (s.store.after operation).Represents _
  unfold Store.after
  cases hoperation : operation.outcome with
  | error fault => exact h
  | ok s' => exact hmade s' hoperation

/-- One request keeps the rows to the history. -/
theorem perform {s : Service} (h : s.store.Represents held) (request : Request) :
    (s.perform request).1.store.Represents (s.record held request) := by
  cases request with
  | save authorization =>
    refine h.withStore (s.perform_save authorization) fun s' hsave => ?_
    obtain ⟨a, row, rfl, _, hrow, rfl⟩ := save_eq_ok_iff.mp hsave
    exact h.put hrow
  | remove authorization =>
    refine h.withStore rfl fun s' hremove => ?_
    obtain ⟨a, rfl, _, rfl⟩ := remove_eq_ok_iff.mp hremove
    exact h.erase a.id
  | register client => exact h
  | unregister id => exact h
  | findById id =>
    rw [Service.record_of_effect rfl]
    exact h
  | findByToken text hint =>
    rw [Service.record_of_effect rfl]
    exact h
  | introspect clock value requester hint =>
    rw [Service.record_of_effect rfl]
    exact h

theorem recordAll {s : Service} (h : s.store.Represents held) (requests : List Request) :
    (s.run requests).store.Represents (s.recordAll held requests) := by
  induction requests generalizing s held with
  | nil => exact h
  | cons request rest ih => exact ih (h.perform request)

end Store.Represents

namespace Service

/-- After any run from nothing the rows of the store are what its history says. -/
theorem represents_run (requests : List Request) :
    (empty.run requests).store.Represents (lastSaved requests) :=
  Store.Represents.empty.recordAll requests

/-! ## What is held was saved -/

/-- What holds of every authorization that a run saves with success holds of every one that it
leaves. -/
theorem recordAll_forall {P : Authorization → Prop} (s : Service) {held : Holdings}
    (requests : List Request) (hheld : ∀ id a, held id = some a → P a)
    (hsaved : ∀ (s : Service) a reply, .save (some a) ∈ requests →
      (s.perform (.save (some a))).2.outcome = .ok reply → P a) :
    ∀ id a, s.recordAll held requests id = some a → P a := by
  induction requests generalizing s held with
  | nil => exact hheld
  | cons request rest ih =>
    refine ih _ (fun id a ha => ?_) fun s' a reply ha =>
      hsaved s' a reply (List.mem_cons_of_mem request ha)
    rw [record] at ha
    cases hreply : (s.perform request).2.outcome with
    | error fault =>
      rw [hreply] at ha
      exact hheld id a ha
    | ok reply =>
      rw [hreply] at ha
      rcases request.effect_cases ha with hold | rfl
      · exact hheld id a hold
      · exact hsaved s a reply List.mem_cons_self hreply

theorem lastSaved_forall {P : Authorization → Prop} {requests : List Request}
    (hsaved : ∀ a, .save (some a) ∈ requests → P a) :
    ∀ id a, lastSaved requests id = some a → P a :=
  empty.recordAll_forall requests (fun _ _ h => by cases h) fun _ a _ ha _ => hsaved a ha

/-- Nothing is saved without an id. -/
theorem not_blank_of_lastSaved {requests : List Request} {id : String} {a : Authorization}
    (h : lastSaved requests id = some a) : Text.isBlankText id = false := by
  have hid : Text.isBlankText a.id = false := by
    refine empty.recordAll_forall (P := fun a => Text.isBlankText a.id = false) requests
      (fun _ _ h => by cases h) (fun s b reply _ hreply => ?_) id a h
    rw [perform_save, Traced.outcome_map] at hreply
    obtain ⟨s', hsave, _⟩ := Except.map_eq_ok hreply
    obtain ⟨_, _, hsame, hblank, _⟩ := Store.save_eq_ok_iff.mp hsave
    cases hsame
    exact hblank
  rwa [((represents_run requests).written id a h).1] at hid

end Service
end GrantKeeper
