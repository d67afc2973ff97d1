/-
What depends on which clients are registered.

A lookup asks the directory only where it selects exactly one row, and then for the client of that
row before it looks at anything else in it (`answer_of_single`, `answer_of_not_single`).  Nothing
that is written asks the directory (`store_run_congr`).  So a client that is unregistered hides its
rows and does nothing else: two histories of which one leaves a client out for a while answer every
lookup alike once the client is registered in both (`AlikeBut.answer_eq`).
-/
import GrantKeeper.Proofs.Service.ForeignRows
import GrantKeeper.Proofs.Service.Scopes

namespace GrantKeeper

open Service

/-! ## Lookups -/

/-- What can be looked up: an id, or a text where a hint says. -/
inductive Lookup where
  | byId (id : String)
  | byToken (text : String) (hint : Option String)

def Lookup.request : Lookup → Request
  | .byId id => .findById id
  | .byToken text hint => .findByToken text hint

namespace Store

def answer (s : Store) (directory : Directory) : Lookup → Traced (Option Authorization)
  | .byId id => s.findById directory id
  | .byToken text hint => s.findByToken directory text hint

/-- The rows that a lookup selects: none for a blank text and by a hint that cannot be searched
by. -/
def reached (s : Store) : Lookup → List Row
  | .byId id => if Text.isBlankText id then [] else (s.find? id).toList
  | .byToken text hint =>
    if Text.isBlankText text then [] else ((searched? hint).map (s.selected text)).getD []

/-- The rows that an introspection goes by: those selected by the hint, or without it where the hint
selects none. -/
def judged (s : Store) (value : String) (hint : Option String) : List Row :=
  if s.reached (.byToken value hint) = [] then s.reached (.byToken value none)
  else s.reached (.byToken value hint)

end Store

namespace Store

variable {s : Store} {lookup : Lookup} {row : Row}

/-- Rows that are not a single one are not loaded, whatever the directory. -/
theorem loadOnly_of_not_single {rows : List Row} (h : ∀ row, rows ≠ [row]) :
    ∃ fixed : Traced (Option Authorization), (∀ directory, loadOnly directory rows = fixed) ∧
      ∀ found, fixed.outcome = .ok found → found = none ∧ rows = [] := by
  match rows with
  | [] => exact ⟨_, fun _ => rfl, fun found hfound => ⟨(Except.ok.inj hfound).symm, rfl⟩⟩
  | [row] => exact absurd rfl (h row)
  | _ :: _ :: _ => exact ⟨_, fun _ => rfl, fun found hfound => by cases hfound⟩

/-- A lookup loads the rows that it selects, or nothing at all where its text is refused or its hint
cannot be searched by. -/
theorem answer_cases (s : Store) (lookup : Lookup) :
    (∀ directory, s.answer directory lookup = loadOnly directory (s.reached lookup)) ∨
    (s.reached lookup = [] ∧ ∃ fixed : Traced (Option Authorization),
      (∀ directory, s.answer directory lookup = fixed) ∧
        ∀ found, fixed.outcome = .ok found → found = none) := by
  cases lookup with
  | byId id =>
    cases hid : Text.isBlankText id with
    | true =>
      refine .inr ⟨if_pos hid, Traced.fail (.precondition "id cannot be empty"),
        fun directory => ?_, fun found hfound => by cases hfound⟩
      rw [answer, findById, requireText_of_blank hid]
      rfl
    | false =>
      have hreached : s.reached (.byId id) = (s.find? id).toList :=
        if_neg (Bool.eq_false_iff.mp hid)
      refine .inl fun directory => ?_
      rw [hreached, answer, findById, requireText_of_not_blank hid, pure_bind]
  | byToken text hint =>
    cases htext : Text.isBlankText text with
    | true =>
      refine .inr ⟨if_pos htext, Traced.fail (.precondition "token cannot be empty"),
        fun directory => ?_, fun found hfound => by cases hfound⟩
      rw [answer, findByToken, requireText_of_blank htext]
      rfl
    | false =>
      have hreached : s.reached (.byToken text hint) =
          ((searched? hint).map (s.selected text)).getD [] := if_neg (Bool.eq_false_iff.mp htext)
      rw [hreached]
      cases hhints : searched? hint with
      | none =>
        refine .inr ⟨rfl, s.answer .empty (.byToken text hint), fun directory => ?_,
          fun found hfound => ?_⟩
        · rw [answer, answer, findByToken, findByToken, hhints]
        · rw [answer, s.outcome_findByToken_of_not_searched .empty htext hhints] at hfound
          exact (Except.ok.inj hfound).symm
      | some hints =>
        refine .inl fun directory => ?_
        rw [answer, findByToken, requireText_of_not_blank htext, pure_bind, hhints]
        rfl

theorem answer_of_single (h : s.reached lookup = [row]) (directory : Directory) :
    s.answer directory lookup = some <$> row.load directory := by
  rcases s.answer_cases lookup with hloads | ⟨hnone, _⟩
  · rw [hloads, h]
    rfl
  · rw [h] at hnone
    cases hnone

/-- A lookup that selects no row or several does not depend on the directory, and finds nothing in
the one case and fails in the other. -/
theorem answer_of_not_single (h : ∀ row, s.reached lookup ≠ [row]) :
    ∃ fixed : Traced (Option Authorization), (∀ directory, s.answer directory lookup = fixed) ∧
      ∀ found, fixed.outcome = .ok found → found = none ∧ s.reached lookup = [] := by
  rcases s.answer_cases lookup with hloads | ⟨hnone, fixed, hfixed, hfound⟩
  · obtain ⟨fixed, hfixed, hfound⟩ := loadOnly_of_not_single h
    exact ⟨fixed, fun directory => (hloads directory).trans (hfixed directory), hfound⟩
  · exact ⟨fixed, hfixed, fun found hok => ⟨hfound found hok, hnone⟩⟩

/-- Directories in which the clients of the row that a lookup selects are registered alike give the
same answer. -/
theorem answer_congr {directory directory' : Directory}
    (h : ∀ row, s.reached lookup = [row] → (directory.Registered row.registeredClientId ↔
      directory'.Registered row.registeredClientId)) :
    s.answer directory lookup = s.answer directory' lookup := by
  by_cases hsingle : ∃ row, s.reached lookup = [row]
  · obtain ⟨row, hrow⟩ := hsingle
    rw [answer_of_single hrow, answer_of_single hrow, Row.load_congr (h row hrow)]
  · obtain ⟨fixed, hfixed, _⟩ := answer_of_not_single (not_exists.mp hsingle)
    rw [hfixed, hfixed]

/-- What a lookup finds was loaded from the only row that it selects. -/
theorem answer_eq_some {directory : Directory} {a : Authorization}
    (h : (s.answer directory lookup).outcome = .ok (some a)) :
    ∃ row, s.reached lookup = [row] ∧ (row.load directory).outcome = .ok a := by
  by_cases hsingle : ∃ row, s.reached lookup = [row]
  · obtain ⟨row, hrow⟩ := hsingle
    rw [answer_of_single hrow, Traced.outcome_map] at h
    obtain ⟨b, hload, hsome⟩ := Except.map_eq_ok h
    cases hsome
    exact ⟨row, hrow, hload⟩
  · obtain ⟨fixed, hfixed, hnothing⟩ := answer_of_not_single (not_exists.mp hsingle)
    rw [hfixed] at h
    cases (hnothing _ h).1

/-! ## Introspection -/

variable {directory : Directory} {value : String} {hint : Option String}

/-- A single row that an introspection goes by is selected by the hint, or the hint selects none and
the row is selected without it. -/
theorem judged_eq_single (h : s.judged value hint = [row]) (directory : Directory) :
    s.reached (.byToken value hint) = [row] ∨
    (s.findByToken directory value hint).outcome = .ok none ∧
      s.reached (.byToken value none) = [row] := by
  unfold judged at h
  split at h
  · next hnone =>
    refine .inr ⟨?_, h⟩
    -- The text is not blank, for then nothing were selected without the hint either.
    have htext : Text.isBlankText value = false := by
      by_contra hblank
      rw [Bool.not_eq_false] at hblank
      have hempty : s.reached (.byToken value none) = [] := if_pos hblank
      rw [hempty] at h
      cases h
    cases hhints : searched? hint with
    | none => exact s.outcome_findByToken_of_not_searched directory htext hhints
    | some hints =>
      have hreached : s.reached (.byToken value hint) =
          ((searched? hint).map (s.selected value)).getD [] := if_neg (Bool.eq_false_iff.mp htext)
      rw [hhints, Option.map_some, Option.getD_some, hnone] at hreached
      rw [s.outcome_findByToken directory htext hhints, ← hreached]
      rfl
  · exact .inl h

/-- An introspection that goes by the row of a client who is not registered fails for that. -/
theorem outcome_introspect_of_judged (h : s.judged value hint = [row])
    (hclient : ¬directory.Registered row.registeredClientId) (clock : Timestamp)
    (requester : Option String) :
    (s.introspect directory clock value requester hint).outcome =
      .error (.failure (.unresolvedClient row.registeredClientId)) := by
  have hfails : ∀ searched, s.reached (.byToken value searched) = [row] →
      (s.findByToken directory value searched).outcome =
        .error (.failure (.unresolvedClient row.registeredClientId)) := fun searched hrow => by
    have hanswer := congrArg Traced.outcome (answer_of_single hrow directory)
    rw [Traced.outcome_map, Row.outcome_load_of_unregistered hclient] at hanswer
    exact hanswer
  rw [outcome_introspect]
  rcases judged_eq_single h directory with hrow | ⟨hnone, hrow⟩
  · rw [hfails hint hrow]
    rfl
  · cases hint with
    | none =>
      rw [hfails none hrow]
      rfl
    | some hint =>
      rw [hnone, hfails none hrow]
      rfl

/-- An introspection that goes by no row or by several does not depend on the directory. -/
theorem introspect_of_not_judged (h : ∀ row, s.judged value hint ≠ [row])
    (directory directory' : Directory) (clock : Timestamp) (requester : Option String) :
    s.introspect directory clock value requester hint =
      s.introspect directory' clock value requester hint := by
  have hfirst : ∀ row, s.reached (.byToken value hint) ≠ [row] := fun row hrow => by
    refine h row ?_
    rw [judged, hrow, if_neg (by simp)]
  obtain ⟨found, hfound, hnothing⟩ := answer_of_not_single hfirst
  dsimp only [answer] at hfound
  unfold introspect
  rw [hfound, hfound]
  refine Traced.bind_congr fun a ha => ?_
  obtain ⟨rfl, hnone⟩ := hnothing a ha
  cases hint with
  | none => rfl
  | some hint =>
    have hsecond : ∀ row, s.reached (.byToken value none) ≠ [row] := fun row hrow => by
      refine h row ?_
      rw [judged, if_pos hnone, hrow]
    obtain ⟨again, hagain, hstill⟩ := answer_of_not_single hsecond
    dsimp only [answer] at hagain
    dsimp only [Option.isNone_none, Option.isSome_some, Bool.and_self, if_true]
    rw [hagain, hagain]
    refine Traced.bind_congr fun b hb => ?_
    rw [(hstill b hb).1]
    rfl

end Store

/-! ## Requests one after another -/

/-- A request that may change the store. -/
def Request.isWrite : Request → Bool
  | .save _ | .remove _ => true
  | _ => false

/-- Whether a client is registered after a request, where the request says so. -/
def Request.registration? (id : String) : Request → Option Bool
  | .register client => if client.id = id then some true else none
  | .unregister removed => if removed = id then some false else none
  | _ => none

namespace Service

theorem perform_lookup (s : Service) (lookup : Lookup) :
    s.perform lookup.request = (s, .authorization <$> s.store.answer s.directory lookup) := by
  cases lookup <;> rfl

theorem store_perform_of_not_write (s : Service) {request : Request}
    (h : request.isWrite = false) : (s.perform request).1.store = s.store := by
  cases request with
  | save authorization => cases h
  | remove authorization => cases h
  | register client => rfl
  | unregister id => rfl
  | findById id => rfl
  | findByToken text hint => rfl
  | introspect clock value requester hint => rfl

variable {s s' : Service}

/-- What a request leaves in the store does not depend on the directory. -/
theorem store_perform_congr (h : s.store = s'.store) (request : Request) :
    (s.perform request).1.store = (s'.perform request).1.store := by
  cases request <;> simp only [perform, withStore, h]

theorem reply_congr (h : s.store = s'.store) {request : Request} (hwrite : request.isWrite = true) :
    (s.perform request).2 = (s'.perform request).2 := by
  cases request with
  | save authorization => simp only [perform, h]
  | remove authorization => simp only [perform, h]
  | _ => cases hwrite

theorem store_run_filter (h : s.store = s'.store) (requests : List Request) :
    (s.run requests).store = (s'.run (requests.filter Request.isWrite)).store := by
  induction requests generalizing s s' with
  | nil => exact h
  | cons request rest ih =>
    cases hwrite : request.isWrite with
    | true =>
      rw [List.filter_cons_of_pos hwrite]
      exact ih (store_perform_congr h request)
    | false =>
      rw [List.filter_cons_of_neg (by simp [hwrite])]
      exact ih ((s.store_perform_of_not_write hwrite).trans h)

/-- What is stored after a run depends on what was stored before and on what is saved and removed,
in this order, and on nothing else. -/
theorem store_run_congr (h : s.store = s'.store) {requests requests' : List Request}
    (hwrites : requests.filter Request.isWrite = requests'.filter Request.isWrite) :
    (s.run requests).store = (s'.run requests').store := by
  rw [store_run_filter h, hwrites, ← store_run_filter rfl]

theorem registered_perform (s : Service) (request : Request) (id : String) :
    ((s.perform request).1.directory.find? id).isSome =
      (request.registration? id).getD (s.directory.find? id).isSome := by
  cases request with
  | register client =>
    dsimp only [perform, Request.registration?]
    split
    · next same =>
      rw [← same, Directory.find?_register_self, Option.isSome_some, Option.getD_some]
    · next differ => rw [Directory.find?_register_of_ne _ (Ne.symm differ), Option.getD_none]
  | unregister removed =>
    dsimp only [perform, Request.registration?]
    split
    · next same =>
      rw [← same, Directory.find?_unregister_self, Option.isSome_none, Option.getD_some]
    · next differ => rw [Directory.find?_unregister_of_ne _ (Ne.symm differ), Option.getD_none]
  | save authorization => rfl
  | remove authorization => rfl
  | findById id => rfl
  | findByToken text hint => rfl
  | introspect clock value requester hint => rfl

/-- A client is registered if the last request that registers or unregisters it does register it. -/
theorem registered_run (s : Service) (requests : List Request) (id : String) :
    ((s.run requests).directory.find? id).isSome =
      requests.foldl (fun registered request => (request.registration? id).getD registered)
        (s.directory.find? id).isSome := by
  induction requests generalizing s with
  | nil => rfl
  | cons request rest ih =>
    rw [List.foldl_cons, ← registered_perform]
    exact ih (s.perform request).1

/-! ## Services that differ in clients -/

/-- Services with the same rows, in which the same clients are registered but for some. -/
structure AlikeBut (exempt : Set String) (s s' : Service) : Prop where
  store : s.store = s'.store
  registered : ∀ id ∉ exempt, (s.directory.find? id).isSome = (s'.directory.find? id).isSome

namespace AlikeBut

variable {exempt : Set String}

theorem perform (h : AlikeBut exempt s s') (request : Request) :
    AlikeBut exempt (s.perform request).1 (s'.perform request).1 where
  store := store_perform_congr h.store request
  registered id hid := by
    rw [registered_perform, registered_perform, h.registered id hid]

theorem run (h : AlikeBut exempt s s') (requests : List Request) :
    AlikeBut exempt (s.run requests) (s'.run requests) := by
  induction requests generalizing s s' with
  | nil => exact h
  | cons request rest ih => exact ih (h.perform request)

theorem of_unregister (s : Service) (id : String) :
    AlikeBut {id} (s.perform (.unregister id)).1 s where
  store := rfl
  registered other hother := by
    rw [registered_perform]
    show Option.getD (if id = other then some false else none) _ = _
    rw [if_neg (Ne.symm hother), Option.getD_none]

/-- A client that the other service has registered is registered in both once it is in this one. -/
theorem register {client : Client} (h : AlikeBut {client.id} s s')
    (hclient : s'.directory.Registered client.id) :
    AlikeBut ∅ (s.perform (.register client)).1 s' where
  store := h.store
  registered id _ := by
    rw [registered_perform]
    show Option.getD (if client.id = id then some true else none) _ = _
    split
    · next same => rw [← same, Option.getD_some, hclient]
    · next differ => rw [Option.getD_none, h.registered id (Ne.symm differ)]

theorem answer_eq (h : AlikeBut ∅ s s') (lookup : Lookup) :
    s.store.answer s.directory lookup = s'.store.answer s'.directory lookup := by
  rw [← h.store]
  refine Store.answer_congr fun row _ => ?_
  unfold Directory.Registered
  rw [h.registered row.registeredClientId (Set.notMem_empty _)]

end AlikeBut

/-! ## What depends on the clients -/

/-- How the clients that are registered count for the answers of a service. -/
structure AnswersByClients (s : Service) : Prop where
  /-- What a lookup finds is of the only row that it selects, whose client is registered. -/
  found : ∀ lookup a, (s.perform lookup.request).2.outcome = .ok (.authorization (some a)) →
    ∃ row, s.store.reached lookup = [row] ∧ s.directory.Registered row.registeredClientId ∧
      a.registeredClientId = row.registeredClientId
  /-- A lookup of a row whose client is not registered fails for that, whatever else is in it. -/
  unresolved : ∀ lookup row, s.store.reached lookup = [row] →
    ¬s.directory.Registered row.registeredClientId →
    (s.perform lookup.request).2.outcome =
      .error (.failure (.unresolvedClient row.registeredClientId))
  /-- So does an introspection that goes by the row. -/
  introspected : ∀ clock value requester hint row, s.store.judged value hint = [row] →
    ¬s.directory.Registered row.registeredClientId →
    (s.perform (.introspect clock value requester hint)).2.outcome =
      .error (.failure (.unresolvedClient row.registeredClientId))
  /-- Where no row or several are selected, the directory does not count. -/
  unselected : ∀ lookup, (∀ row, s.store.reached lookup ≠ [row]) → ∀ directory,
    ({ s with directory := directory }.perform lookup.request).2 = (s.perform lookup.request).2
  unjudged : ∀ clock value requester hint, (∀ row, s.store.judged value hint ≠ [row]) →
    ∀ directory, ({ s with directory := directory }.perform
        (.introspect clock value requester hint)).2 =
      (s.perform (.introspect clock value requester hint)).2
  /-- Nor does it for what is saved and removed. -/
  written : ∀ request, request.isWrite = true → ∀ directory,
    ({ s with directory := directory }.perform request).2 = (s.perform request).2 ∧
    ({ s with directory := directory }.perform request).1.store = (s.perform request).1.store

theorem answersByClients (s : Service) : s.AnswersByClients where
  found lookup a h := by
    rw [perform_lookup, Traced.outcome_map] at h
    obtain ⟨found, hanswer, hfound⟩ := Except.map_eq_ok h
    cases hfound
    obtain ⟨row, hrow, hload⟩ := Store.answer_eq_some hanswer
    obtain ⟨hclient, _, hloaded⟩ := Row.load_eq_ok_iff_loadedFrom.mp hload
    exact ⟨row, hrow, hclient, hloaded.registeredClientId⟩
  unresolved lookup row hrow hclient := by
    rw [perform_lookup, Store.answer_of_single hrow, Traced.outcome_map, Traced.outcome_map,
      Row.outcome_load_of_unregistered hclient]
    rfl
  introspected clock value requester hint row hrow hclient := by
    show (Reply.verdict <$> s.store.introspect s.directory clock value requester hint).outcome = _
    rw [Traced.outcome_map, Store.outcome_introspect_of_judged hrow hclient]
    rfl
  unselected lookup h directory := by
    obtain ⟨fixed, hfixed, _⟩ := Store.answer_of_not_single h
    rw [perform_lookup, perform_lookup, hfixed, hfixed]
  unjudged clock value requester hint h directory :=
    congrArg (Reply.verdict <$> ·)
      (Store.introspect_of_not_judged h directory s.directory clock requester)
  written request hwrite directory := by
    have hstore : ({ s with directory := directory } : Service).store = s.store := rfl
    exact ⟨reply_congr hstore hwrite, store_perform_congr hstore request⟩

/-- A lookup that found an authorization finds it again as soon as the same rows are selected and
the client is registered, whatever became of the directory. -/
theorem answer_again {lookup : Lookup} {a : Authorization}
    (hfound : (s.store.answer s.directory lookup).outcome = .ok (some a))
    (hreached : s'.store.reached lookup = s.store.reached lookup)
    (hclient : s'.directory.Registered a.registeredClientId) :
    s'.store.answer s'.directory lookup = s.store.answer s.directory lookup := by
  obtain ⟨row, hrow, hload⟩ := Store.answer_eq_some hfound
  obtain ⟨hbefore, _, hloaded⟩ := Row.load_eq_ok_iff_loadedFrom.mp hload
  rw [Store.answer_of_single (hreached.trans hrow), Store.answer_of_single hrow]
  rw [hloaded.registeredClientId] at hclient
  rw [Row.load_congr (iff_of_true hclient hbefore)]

/-- A client that is left out for a while makes no difference once it is registered again. -/
theorem AlikeBut.readmitted (s : Service) {client : Client} {middle : List Request}
    (hclient : (s.run middle).directory.Registered client.id) (later : List Request) :
    AlikeBut ∅ (s.run (.unregister client.id :: middle ++ .register client :: later))
      (s.run (middle ++ later)) := by
  have hwithout : AlikeBut {client.id} (s.run (.unregister client.id :: middle)) (s.run middle) :=
    (of_unregister s client.id).run middle
  rw [run_append, run_append]
  exact (hwithout.register hclient).run later

end Service

/-- In any run of requests, in any order, a row is loaded only while its client is registered, which
it is if the request that last spoke of it registered it; of any other row a lookup or an
introspection says that its client is missing and no more.  What is stored depends on what was saved
and removed alone.  What a lookup found before it finds again once the client is registered again,
and with the client left out for a while it answers as if that had not been. -/
theorem lookups_of_clients (s : Service) (requests : List Request) :
    (s.run requests).AnswersByClients ∧
    (∀ id, (s.run requests).directory.Registered id ↔
      requests.foldl (fun registered request => (request.registration? id).getD registered)
        (s.directory.find? id).isSome = true) ∧
    (∀ (s' : Service) (requests' : List Request), s.store = s'.store →
      requests.filter Request.isWrite = requests'.filter Request.isWrite →
        (s.run requests).store = (s'.run requests').store) ∧
    (∀ (lookup : Lookup) (a : Authorization) (later : List Request),
      ((s.run requests).perform lookup.request).2.outcome = .ok (.authorization (some a)) →
      (s.run (requests ++ later)).store.reached lookup = (s.run requests).store.reached lookup →
      (s.run (requests ++ later)).directory.Registered a.registeredClientId →
        ((s.run (requests ++ later)).perform lookup.request).2 =
          ((s.run requests).perform lookup.request).2) ∧
    ∀ (client : Client) (middle later : List Request) (lookup : Lookup),
      (s.run (requests ++ middle)).directory.Registered client.id →
        ((s.run (requests ++ .unregister client.id :: middle ++ .register client :: later)).perform
          lookup.request).2 =
        ((s.run (requests ++ middle ++ later)).perform lookup.request).2 := by
  refine ⟨(s.run requests).answersByClients, fun id => ?_,
    fun s' requests' hstore hwrites => store_run_congr hstore hwrites,
    fun lookup a later hfound hreached hclient => ?_,
    fun client middle later lookup hclient => ?_⟩
  · rw [Directory.Registered, registered_run]
  · rw [perform_lookup, Traced.outcome_map] at hfound
    obtain ⟨found, hanswer, hsome⟩ := Except.map_eq_ok hfound
    cases hsome
    rw [perform_lookup, perform_lookup, answer_again hanswer hreached hclient]
  · rw [run_append] at hclient
    have halike := AlikeBut.readmitted (s.run requests) hclient later
    rw [List.append_assoc, List.append_assoc, s.run_append requests, s.run_append requests,
      perform_lookup, perform_lookup, halike.answer_eq lookup]

/-- A row of a client nobody registered, with a value that is not UTF-8, fails for the client; what
was saved is found again after its client was unregistered and registered. -/
theorem lookups_of_clients_sample :
    (((⟨foreignStore ⟨#[0xFF]⟩, .empty⟩ : Service).run []).perform (.findById "f1")).2.outcome =
      .error (.failure (.unresolvedClient "c1")) ∧
    ((openService.run ([.save (some (scopedAuthorization ["read"]))] ++
        [.unregister "c1", .findById "a1", .register sampleClient])).perform
          (.findByToken "at-1" none)).2 =
      ((openService.run [.save (some (scopedAuthorization ["read"]))]).perform
        (.findByToken "at-1" none)).2 := by
  obtain ⟨hforeign, _⟩ := lookups_of_clients ⟨foreignStore ⟨#[0xFF]⟩, .empty⟩ []
  obtain ⟨_, _, _, hagain, _⟩ :=
    lookups_of_clients openService [.save (some (scopedAuthorization ["read"]))]
  refine ⟨hforeign.unresolved (.byId "f1") (foreignRow ⟨#[0xFF]⟩) rfl Bool.false_ne_true, ?_⟩
  exact hagain (.byToken "at-1" none) _ [.unregister "c1", .findById "a1", .register sampleClient]
    rfl rfl rfl

end GrantKeeper
