/-
Token values are opaque.

Nothing that the service answers or reports depends on what a token's value is.  Where one value
takes the place of another throughout a history, each request is answered alike, up to the value in
the authorizations that a lookup hands out, and the journal gets the same entries
(`answers_renamed`).  So a history without lookups is answered with the very same answers
(`answers_regardless_of_value`).
-/
import GrantKeeper.Proofs.Introspection.Active
import GrantKeeper.Proofs.Service.Hint
import GrantKeeper.Proofs.Service.Refinement
import GrantKeeper.Proofs.Store.Renaming

namespace GrantKeeper

variable (r : Renaming)

/-! ## Stores -/

namespace Store

def renamed (s : Store) : Store :=
  ⟨s.rows.map (·.renamed r), by
    rw [List.map_map]
    exact s.ids_nodup⟩

/-- A store whose rows avoid the values. -/
def Avoids (s : Store) : Prop :=
  ∀ row ∈ s.rows, row.Avoids r

theorem find?_renamed (s : Store) (id : String) :
    (s.renamed r).find? id = (s.find? id).map (·.renamed r) := by
  unfold find? renamed
  rw [List.find?_map]
  rfl

theorem putRow_renamed (row : Row) (rows : List Row) :
    putRow (row.renamed r) (rows.map (·.renamed r)) = (putRow row rows).map (·.renamed r) := by
  induction rows with
  | nil => rfl
  | cons first rest ih =>
    rw [List.map_cons, putRow, putRow, ih]
    show (if first.id = row.id then _ else _) = _
    split <;> rfl

theorem ext_rows {s s' : Store} (h : s.rows = s'.rows) : s = s' := by
  cases s
  cases s'
  cases h
  rfl

theorem put_renamed (s : Store) (row : Row) :
    (s.renamed r).put (row.renamed r) = (s.put row).renamed r :=
  ext_rows (putRow_renamed r row s.rows)

theorem erase_renamed (s : Store) (id : String) :
    (s.renamed r).erase id = (s.erase id).renamed r := by
  apply ext_rows
  show (s.rows.map _).filter _ = (s.rows.filter _).map _
  rw [List.filter_map]
  rfl

theorem count_renamed (s : Store) (id : String) : (s.renamed r).count id = s.count id := by
  unfold count renamed
  rw [List.countP_map]
  rfl

/-! ## Saving and removing -/

theorem requireIdentified_renamed (authorization : Option Authorization) :
    requireIdentified (authorization.map (·.renamed r)) =
      Authorization.renamed r <$> requireIdentified authorization := by
  cases authorization with
  | none => rfl
  | some a =>
    show (requireText a.id "id" >>= fun _ => pure _) =
      Authorization.renamed r <$> (requireText a.id "id" >>= fun _ => pure _)
    rw [map_bind]
    rfl

theorem savingText_renamed (s : Store) (a : Authorization) :
    (s.renamed r).savingText (a.renamed r) = s.savingText a := by
  unfold savingText
  show (if ((s.renamed r).find? a.id).isSome then _ else _) = _
  rw [find?_renamed, Option.isSome_map]
  rfl

theorem save_renamed (s : Store) (authorization : Option Authorization) :
    (s.renamed r).save (authorization.map (·.renamed r)) =
      Store.renamed r <$> s.save authorization := by
  unfold save
  rw [requireIdentified_renamed, bind_map_left, map_bind]
  congr 1
  funext a
  rw [map_bind, savingText_renamed]
  congr 1
  funext _
  rw [Authorization.toRow_renamed, map_bind]
  cases a.toRow with
  | error fault => rfl
  | ok row =>
    show (pure ((s.renamed r).put (row.renamed r)) : Traced Store) = pure ((s.put row).renamed r)
    rw [put_renamed]

theorem remove_renamed (s : Store) (authorization : Option Authorization) :
    (s.renamed r).remove (authorization.map (·.renamed r)) =
      Store.renamed r <$> s.remove authorization := by
  unfold remove
  rw [requireIdentified_renamed, bind_map_left, map_bind]
  congr 1
  funext a
  have hcount : (s.renamed r).count (a.renamed r).id = s.count a.id := s.count_renamed r a.id
  dsimp only
  rw [hcount, map_bind]
  congr 1
  funext _
  show (pure ((s.renamed r).erase a.id) : Traced Store) = pure ((s.erase a.id).renamed r)
  rw [erase_renamed]

theorem after_renamed (s : Store) (operation : Traced Store) :
    (s.renamed r).after (Store.renamed r <$> operation) = (s.after operation).renamed r := by
  unfold after
  rw [Traced.outcome_map]
  cases operation.outcome <;> rfl

/-! ## Stores that avoid the values -/

section

variable {r} {s : Store}

theorem mem_putRow {row row' : Row} {rows : List Row} (h : row' ∈ putRow row rows) :
    row' = row ∨ row' ∈ rows := by
  induction rows with
  | nil => exact .inl (List.mem_singleton.mp h)
  | cons first rest ih =>
    rw [putRow] at h
    split at h
    · exact (List.mem_cons.mp h).imp id (List.mem_cons_of_mem first)
    · rcases List.mem_cons.mp h with rfl | h
      · exact .inr List.mem_cons_self
      · exact (ih h).imp id (List.mem_cons_of_mem first)

theorem Avoids.put (h : s.Avoids r) {row : Row} (hrow : row.Avoids r) : (s.put row).Avoids r := by
  intro row' hmem
  rcases mem_putRow hmem with rfl | hmem
  · exact hrow
  · exact h row' hmem

theorem Avoids.erase (h : s.Avoids r) (id : String) : (s.erase id).Avoids r :=
  fun row hrow => h row (List.mem_filter.mp hrow).1

theorem Avoids.after (h : s.Avoids r) {operation : Traced Store}
    (hmade : ∀ s', operation.outcome = .ok s' → s'.Avoids r) : (s.after operation).Avoids r := by
  unfold Store.after
  cases hoperation : operation.outcome with
  | error fault => exact h
  | ok s' => exact hmade s' hoperation

end

/-! ## Lookups -/

theorem loadOnly_renamed (directory : Directory) (rows : List Row) :
    loadOnly directory (rows.map (·.renamed r)) =
      Option.map (Authorization.renamed r) <$> loadOnly directory rows := by
  match rows with
  | [] => rfl
  | [row] =>
    show some <$> (row.renamed r).load directory = _
    rw [Row.load_renamed, loadOnly, Functor.map_map, Functor.map_map]
    rfl
  | first :: second :: rest => rfl

theorem findById_renamed (s : Store) (directory : Directory) (id : String) :
    (s.renamed r).findById directory id =
      Option.map (Authorization.renamed r) <$> s.findById directory id := by
  unfold findById
  rw [map_bind, find?_renamed, Option.toList_map, loadOnly_renamed]

theorem requireText_apply (text name : String) :
    requireText (r.apply text) name = requireText text name := by
  rw [requireText, requireText, r.isBlankText_apply]

variable {r} {s : Store}

theorem Avoids.selected_renamed (h : s.Avoids r) {text : String} (htext : text ≠ r.new)
    (hints : List Hint) :
    (s.renamed r).selected (r.apply text) hints = (s.selected text hints).map (·.renamed r) := by
  unfold selected renamed
  rw [List.filter_map]
  congr 1
  refine List.filter_congr fun row hrow => ?_
  show (hints.any fun hint => (row.renamed r).matchesHint (r.apply text) hint) = _
  simp only [(h row hrow).matchesHint_renamed htext]

/-- A lookup by the renamed text finds the authorization that one by the text does. -/
theorem Avoids.findByToken_renamed (h : s.Avoids r) (directory : Directory) {text : String}
    (htext : text ≠ r.new) (hint : Option String) :
    (s.renamed r).findByToken directory (r.apply text) hint =
      Option.map (Authorization.renamed r) <$> s.findByToken directory text hint := by
  unfold findByToken
  rw [requireText_apply, map_bind]
  congr 1
  funext _
  cases searched? hint with
  | none => rfl
  | some hints =>
    dsimp only
    rw [h.selected_renamed htext, loadOnly_renamed]

/-- What is found in a store that avoids the new value has no token of it. -/
theorem Avoids.fresh_of_findByToken (h : s.Avoids r) {directory : Directory} {text : String}
    {hint : Option String} {a : Authorization}
    (hfound : (s.findByToken directory text hint).outcome = .ok (some a)) : r.FreshFor a := by
  obtain ⟨row, hrow, _, hload⟩ := findByToken_eq_some hfound
  exact (h row hrow).fresh_of_load hload

end Store

/-! ## Introspection -/

namespace Authorization

theorem effectiveClaims_renamed (a : Authorization) (slot : Slot) (t : Token) :
    (a.renamed r).effectiveClaims slot (t.renamed r) = a.effectiveClaims slot t := by
  have hid : ((a.renamed r).tokens .id).bind (·.claims) = (a.tokens .id).bind (·.claims) := by
    show ((a.tokens .id).map _).bind _ = _
    cases a.tokens .id <;> rfl
  unfold effectiveClaims
  rw [hid]
  rfl

end Authorization

theorem Verdict.ofToken_renamed (a : Authorization) (slot : Slot) (t : Token) (clientId : String)
    (now : Moment) (requester : Option String) :
    ofToken (a.renamed r) slot (t.renamed r) clientId now requester =
      ofToken a slot t clientId now requester := by
  unfold ofToken
  rw [Authorization.effectiveClaims_renamed]
  rfl

/-- The verdict about the renamed value is the verdict about the value. -/
theorem introspect_renamed (directory : Option Directory) (clock : Timestamp)
    (requester : Option String) {value : String} (hvalue : value ≠ r.new)
    {found : Option Authorization} (hfound : ∀ a ∈ found, r.FreshFor a) :
    introspect directory clock requester (r.apply value) (found.map (·.renamed r)) =
      introspect directory clock requester value found := by
  cases found with
  | none => rfl
  | some a =>
    have hfind := Authorization.find?_renamed r (hfound a rfl) hvalue
    rw [Option.map_some, introspect, introspect, hfind]
    cases a.find? value with
    | none => rfl
    | some held =>
      obtain ⟨slot, t⟩ := held
      dsimp only [Option.map_some]
      simp only [Verdict.ofToken_renamed]
      rfl

theorem Store.Avoids.introspect_renamed {r : Renaming} {s : Store} (h : s.Avoids r)
    (directory : Directory) (clock : Timestamp) {value : String} (hvalue : value ≠ r.new)
    (requester hint : Option String) :
    (s.renamed r).introspect directory clock (r.apply value) requester hint =
      s.introspect directory clock value requester hint := by
  have hfresh : ∀ hint found, (s.findByToken directory value hint).outcome = .ok found →
      ∀ a ∈ found, r.FreshFor a := by
    rintro hint found hfound a rfl
    exact h.fresh_of_findByToken hfound
  unfold Store.introspect
  rw [h.findByToken_renamed directory hvalue, bind_map_left]
  refine Traced.bind_congr fun found hfound => ?_
  rw [h.findByToken_renamed directory hvalue, Option.isNone_map]
  split
  · rw [bind_map_left]
    exact Traced.bind_congr fun found hfound =>
      GrantKeeper.introspect_renamed r _ clock requester hvalue (hfresh none found hfound)
  · rw [pure_bind, pure_bind]
    exact GrantKeeper.introspect_renamed r _ clock requester hvalue (hfresh hint found hfound)

/-! ## Requests -/

namespace Request

/-- The request with the value renamed where it is a token's or looked up. -/
def renamed : Request → Request
  | .save a => .save (a.map (·.renamed r))
  | .remove a => .remove (a.map (·.renamed r))
  | .findByToken text hint => .findByToken (r.apply text) hint
  | .introspect clock value requester hint => .introspect clock (r.apply value) requester hint
  | request => request

/-- In a request the new value is neither a token's nor looked up, and neither value is a state. -/
def Avoids : Request → Prop
  | .save a | .remove a => ∀ b ∈ a, b.Avoids r
  | .findByToken text _ => text ≠ r.new
  | .introspect _ value _ _ => value ≠ r.new
  | _ => True

/-- A request that is answered with an authorization, its tokens included. -/
def handsOut : Request → Bool
  | .findById _ | .findByToken .. => true
  | _ => false

end Request

/-- The reply with the value renamed in the authorization that it hands out. -/
def Reply.renamed : Reply → Reply
  | .authorization found => .authorization (found.map (·.renamed r))
  | reply => reply

namespace Service

def renamed (s : Service) : Service :=
  ⟨s.store.renamed r, s.directory⟩

variable {r} {s : Service}

/-- An operation that gives the renamed store is answered alike and leaves the service renamed. -/
theorem withStore_renamed {operation operation' : Traced Store}
    (h : operation' = Store.renamed r <$> operation) :
    ((s.renamed r).withStore operation', (fun _ => Reply.done) <$> operation') =
      ((s.withStore operation).renamed r,
        Reply.renamed r <$> (fun _ => Reply.done) <$> operation) := by
  have hstore : (s.renamed r).withStore operation' = (s.withStore operation).renamed r := by
    show Service.mk ((s.store.renamed r).after operation') s.directory = _
    rw [h, Store.after_renamed]
    rfl
  rw [hstore, h, Functor.map_map, Functor.map_map]
  rfl

/-- What a lookup finds is handed out renamed. -/
theorem authorization_renamed (lookup : Traced (Option Authorization)) :
    Reply.authorization <$> Option.map (Authorization.renamed r) <$> lookup =
      Reply.renamed r <$> Reply.authorization <$> lookup := by
  rw [Functor.map_map, Functor.map_map]
  rfl

/-- A renamed request is answered alike and leaves the service renamed. -/
theorem perform_renamed (h : s.store.Avoids r) {request : Request} (hrequest : request.Avoids r) :
    (s.renamed r).perform (request.renamed r) =
      ((s.perform request).1.renamed r, Reply.renamed r <$> (s.perform request).2) := by
  cases request with
  | register client => rfl
  | unregister id => rfl
  | save a =>
    show (s.renamed r).perform (.save (a.map (·.renamed r))) = _
    rw [perform_save, perform_save]
    exact withStore_renamed (s.store.save_renamed r a)
  | remove a => exact withStore_renamed (s.store.remove_renamed r a)
  | findById id =>
    show (s.renamed r, Reply.authorization <$> (s.store.renamed r).findById s.directory id) = _
    rw [Store.findById_renamed, authorization_renamed]
    rfl
  | findByToken text hint =>
    show (s.renamed r,
      Reply.authorization <$> (s.store.renamed r).findByToken s.directory (r.apply text) hint) = _
    rw [h.findByToken_renamed s.directory hrequest, authorization_renamed]
    rfl
  | introspect clock value requester hint =>
    show (s.renamed r, Reply.verdict <$>
      (s.store.renamed r).introspect s.directory clock (r.apply value) requester hint) = _
    rw [h.introspect_renamed s.directory clock hrequest, perform, Functor.map_map]
    rfl

/-- No request brings the values where they were avoided. -/
theorem avoids_perform (h : s.store.Avoids r) {request : Request} (hrequest : request.Avoids r) :
    (s.perform request).1.store.Avoids r := by
  cases request with
  | save authorization =>
    rw [perform_save]
    refine h.after fun s' hsave => ?_
    obtain ⟨a, row, rfl, _, hrow, rfl⟩ := Store.save_eq_ok_iff.mp hsave
    exact h.put ((hrequest a rfl).row (Authorization.writtenAs_of_toRow hrow))
  | remove authorization =>
    refine h.after fun s' hremove => ?_
    obtain ⟨a, _, _, rfl⟩ := Store.remove_eq_ok_iff.mp hremove
    exact h.erase a.id
  | _ => exact h

/-- The answers to requests one after another. -/
def answers (s : Service) : List Request → List (Traced Reply)
  | [] => []
  | request :: rest => (s.perform request).2 :: (s.perform request).1.answers rest

/-- A renamed history is answered with the renamed answers. -/
theorem answers_renamed (h : s.store.Avoids r) {requests : List Request}
    (hrequests : ∀ request ∈ requests, request.Avoids r) :
    (s.renamed r).answers (requests.map (·.renamed r)) =
      (s.answers requests).map (Reply.renamed r <$> ·) := by
  induction requests generalizing s with
  | nil => rfl
  | cons request rest ih =>
    obtain ⟨hfirst, hrest⟩ := List.forall_mem_cons.mp hrequests
    rw [List.map_cons, answers, answers, List.map_cons, perform_renamed h hfirst,
      ih (avoids_perform h hfirst) hrest]

/-- Only a lookup is answered with an authorization. -/
theorem reply_renamed (s : Service) {request : Request} (h : request.handsOut = false) :
    Reply.renamed r <$> (s.perform request).2 = (s.perform request).2 := by
  cases request with
  | register client => rfl
  | unregister id => rfl
  | save a =>
    rw [perform_save, Functor.map_map]
    rfl
  | remove a =>
    rw [perform, Functor.map_map]
    rfl
  | findById id => cases h
  | findByToken text hint => cases h
  | introspect clock value requester hint =>
    rw [perform, Functor.map_map]
    rfl

theorem answers_same (s : Service) {requests : List Request}
    (h : ∀ request ∈ requests, request.handsOut = false) :
    (s.answers requests).map (Reply.renamed r <$> ·) = s.answers requests := by
  induction requests generalizing s with
  | nil => rfl
  | cons request rest ih =>
    obtain ⟨hfirst, hrest⟩ := List.forall_mem_cons.mp h
    rw [answers, List.map_cons, s.reply_renamed hfirst, ih _ hrest]

/-- One token value is as good as another: in a history without lookups nothing that is answered or
reported depends on it, and neither does what invalidating it does and reports. -/
theorem answers_regardless_of_value (r : Renaming) :
    (∀ requests : List Request, (∀ request ∈ requests, request.Avoids r) →
      (∀ request ∈ requests, request.handsOut = false) →
      empty.answers (requests.map (·.renamed r)) = empty.answers requests) ∧
    ∀ (a : Authorization) (value : String), r.FreshFor a → value ≠ r.new →
      (a.renamed r).invalidateNoted (r.apply value) =
        Authorization.renamed r <$> a.invalidateNoted value := by
  constructor
  · intro requests havoids hkinds
    have hempty : empty.store.Avoids r := by
      intro row hrow
      cases hrow
    have hanswers := answers_renamed hempty havoids
    rw [answers_same empty hkinds] at hanswers
    exact hanswers
  · exact fun a value hfresh hvalue => Authorization.invalidateNoted_renamed r hfresh hvalue

/-! ## A history -/

def sampleRenaming : Renaming where
  old := "at-1"
  new := "at-9"
  old_given := by decide
  new_given := by decide

theorem sampleAuthorization_avoids : sampleAuthorization.Avoids sampleRenaming where
  fresh slot t ht hvalue := by
    cases slot <;> cases ht <;> revert hvalue <;> decide
  state_old := by decide
  state_new := by decide

/-- A token is saved, introspected, removed, and introspected in vain. -/
def introspectedRequests (clock : Timestamp) : List Request :=
  [.register sampleClient, .save (some sampleAuthorization),
    .introspect clock "at-1" (some "rs") none,
    .remove (some sampleAuthorization),
    .introspect clock "at-1" (some "rs") none]

theorem answers_regardless_of_value_sample :
    empty.answers ((introspectedRequests (.naive ⟨500000, by decide⟩)).map
        (·.renamed sampleRenaming)) =
      empty.answers (introspectedRequests (.naive ⟨500000, by decide⟩)) := by
  have hsaved : ∀ b ∈ some sampleAuthorization, b.Avoids sampleRenaming := by
    rintro b ⟨⟩
    exact sampleAuthorization_avoids
  have hvalue : "at-1" ≠ sampleRenaming.new := by decide
  refine (answers_regardless_of_value sampleRenaming).1
    (introspectedRequests (.naive ⟨500000, by decide⟩)) ?_ ?_
  · simp only [introspectedRequests, List.forall_mem_cons]
    exact ⟨trivial, hsaved, hvalue, hsaved, hvalue, fun _ h => by cases h⟩
  · decide

end Service

end GrantKeeper
