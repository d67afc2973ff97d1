/-
What a lookup by token means: nothing, one authorization or an ambiguity, by how many ids own the
text.
-/
import GrantKeeper.Proofs.Service.Refinement

namespace GrantKeeper

open Service

/-- What a lookup by a text, not a blank one, has to answer where the given authorizations are
held and the clients of a directory are registered. -/
structure AnswersLookup (held : Holdings) (directory : Directory) (text : String)
    (hint : Option String) (found : Except Fault (Option Authorization)) : Prop where
  /-- A hint that names no field finds nothing. -/
  unsearchable : (∀ name ∈ searchedNames hint, name ∉ lookupNames) → found = .ok none
  absent_iff : found = .ok none ↔ held.owners text hint = ∅
  /-- Where its client is registered, an authorization is found exactly if its id is the only
  owner. -/
  present_iff : ∀ id a, held id = some a → directory.Registered a.registeredClientId →
    (found = .ok (some a.normal) ↔ held.owners text hint = {id})
  /-- Where its client is not registered, an only owner is not loaded. -/
  unresolved : ∀ id a, held id = some a → ¬directory.Registered a.registeredClientId →
    held.owners text hint = {id} →
      found = .error (.failure (.unresolvedClient a.registeredClientId))
  /-- Nothing else is loaded, or fails to be for want of a client. -/
  single_iff : ((∃ b, found = .ok (some b)) ∨
      ∃ client, found = .error (.failure (.unresolvedClient client))) ↔
    ∃ id, held.owners text hint = {id}
  ambiguous_iff : (∃ ids, found = .error (.failure (.ambiguousToken ids))) ↔
    (held.owners text hint).Nontrivial
  /-- Of two owners both are named, each once. -/
  ambiguous_pair : ∀ i j, i ≠ j → held.owners text hint = {i, j} →
    ∃ ids : List String, ids.Perm [i, j] ∧ found = .error (.failure (.ambiguousToken ids))

namespace AnswersLookup

variable {held : Holdings} {directory : Directory} {text : String} {hint : Option String}

theorem of_no_owner (h : held.owners text hint = ∅) :
    AnswersLookup held directory text hint (.ok none) := by
  have hsingle : ∀ id, held.owners text hint ≠ {id} := fun id hid =>
    Set.singleton_ne_empty id (hid ▸ h)
  refine ⟨fun _ => rfl, iff_of_true rfl h, fun id a _ _ => ?_, fun id _ _ _ hid => ?_, ?_, ?_,
    fun i j _ hpair => ?_⟩
  · exact iff_of_false (by simp) (hsingle id)
  · exact absurd hid (hsingle id)
  · refine iff_of_false ?_ fun ⟨id, hid⟩ => hsingle id hid
    rintro (⟨b, hb⟩ | ⟨client, hclient⟩)
    · cases hb
    · cases hclient
  · refine iff_of_false (fun ⟨ids, hids⟩ => by cases hids) fun hmany => ?_
    exact hmany.nonempty.ne_empty h
  · exact absurd (hpair ▸ h) (Set.insert_nonempty i {j}).ne_empty

/-- The answer for an only owner, whose authorization is loaded or fails to be. -/
theorem of_only_owner {id : String} {a : Authorization}
    {found : Except Fault (Option Authorization)} (howners : held.owners text hint = {id})
    (hheld : held id = some a) (hids : ∀ i b, held i = some b → b.id = i)
    (hregistered : directory.Registered a.registeredClientId → found = .ok (some a.normal))
    (hunregistered : ¬directory.Registered a.registeredClientId →
      found = .error (.failure (.unresolvedClient a.registeredClientId))) :
    AnswersLookup held directory text hint found := by
  have hloaded : found = .ok (some a.normal) ∨
      found = .error (.failure (.unresolvedClient a.registeredClientId)) := by
    by_cases hclient : directory.Registered a.registeredClientId
    · exact Or.inl (hregistered hclient)
    · exact Or.inr (hunregistered hclient)
  have hmem : id ∈ held.owners text hint := by
    rw [howners]
    exact rfl
  have hthis : ∀ i b, held i = some b → held.owners text hint = {i} → b = a := by
    intro i b hb hi
    have hsame : id = i := Set.singleton_injective (howners.symm.trans hi)
    rw [← hsame, hheld] at hb
    exact (Option.some_inj.mp hb).symm
  have hsome : found ≠ .ok none := by
    rcases hloaded with h | h
    · rw [h]
      simp
    · rw [h]
      simp
  refine ⟨fun hhint => ?_, ?_, fun i b hb hclient => ⟨fun hfound => ?_, fun hi => ?_⟩,
    fun i b hb hclient hi => ?_, ?_, ?_, fun i j hne hpair => ?_⟩
  · rw [Store.owners_of_not_searched (Store.searched?_eq_none_iff.mpr hhint)] at hmem
    cases hmem
  · exact iff_of_false hsome fun hempty => Set.singleton_ne_empty id (howners ▸ hempty)
  · rcases hloaded with h | h
    · rw [h] at hfound
      have hnormal : a.normal = b.normal := by
        simpa using hfound
      have hid : a.normal.id = b.normal.id := congrArg Authorization.id hnormal
      have hid : a.id = b.id := hid
      rw [howners, ← hids id a hheld, hid, hids i b hb]
    · rw [h] at hfound
      cases hfound
  · rw [hthis i b hb hi] at hclient ⊢
    exact hregistered hclient
  · rw [hthis i b hb hi] at hclient ⊢
    exact hunregistered hclient
  · refine iff_of_true ?_ ⟨id, howners⟩
    rcases hloaded with h | h
    · exact Or.inl ⟨_, h⟩
    · exact Or.inr ⟨_, h⟩
  · refine iff_of_false ?_ (by rw [howners]; exact Set.not_nontrivial_singleton)
    rintro ⟨ids, hambiguous⟩
    rcases hloaded with h | h
    · rw [h] at hambiguous
      cases hambiguous
    · rw [h] at hambiguous
      cases hambiguous
  · have hi : i ∈ ({id} : Set String) := howners ▸ hpair ▸ Set.mem_insert i {j}
    have hj : j ∈ ({id} : Set String) := howners ▸ hpair ▸ Set.mem_insert_of_mem i rfl
    exact absurd (hi.trans hj.symm) hne

theorem of_several_owners {i j : String} (hne : i ≠ j) (hi : i ∈ held.owners text hint)
    (hj : j ∈ held.owners text hint) :
    AnswersLookup held directory text hint (.error (.failure (.ambiguousToken [i, j]))) := by
  have hmany : (held.owners text hint).Nontrivial := ⟨i, hi, j, hj, hne⟩
  have hsingle : ∀ id, held.owners text hint ≠ {id} := fun id hid =>
    Set.not_nontrivial_singleton (hid ▸ hmany)
  refine ⟨fun hhint => ?_, ?_, fun id a _ _ => ?_, fun id _ _ _ hid => ?_, ?_, ?_,
    fun k l hkl hpair => ?_⟩
  · rw [Store.owners_of_not_searched (Store.searched?_eq_none_iff.mpr hhint)] at hi
    cases hi
  · exact iff_of_false (by simp) hmany.nonempty.ne_empty
  · exact iff_of_false (by simp) (hsingle id)
  · exact absurd hid (hsingle id)
  · refine iff_of_false ?_ fun ⟨id, hid⟩ => hsingle id hid
    rintro (⟨b, hb⟩ | ⟨client, hclient⟩)
    · cases hb
    · cases hclient
  · exact iff_of_true ⟨_, rfl⟩ hmany
  · refine ⟨[i, j], ?_, rfl⟩
    rw [hpair] at hi hj
    rcases hi with rfl | rfl
    · rcases hj with rfl | rfl
      · exact absurd rfl hne
      · exact List.Perm.refl _
    · rcases hj with rfl | rfl
      · exact List.Perm.swap _ _ _
      · exact absurd rfl hne

theorem ne_precondition {found : Except Fault (Option Authorization)}
    (h : AnswersLookup held directory text hint found) (message : String) :
    found ≠ .error (.failure (.precondition message)) := by
  intro hfound
  rcases (held.owners text hint).eq_empty_or_nonempty with hempty | hnonempty
  · rw [h.absent_iff.mpr hempty] at hfound
    cases hfound
  · rcases hnonempty.exists_eq_singleton_or_nontrivial with hsingle | hmany
    · rcases h.single_iff.mpr hsingle with ⟨b, hb⟩ | ⟨client, hclient⟩
      · rw [hb] at hfound
        cases hfound
      · rw [hclient] at hfound
        cases hfound
    · obtain ⟨ids, hids⟩ := h.ambiguous_iff.mpr hmany
      rw [hids] at hfound
      cases hfound

end AnswersLookup

theorem Store.Represents.answersLookup {s : Store} {held : Holdings} (h : s.Represents held)
    (hheld : ∀ id a, held id = some a → a.WellFormed) (directory : Directory) {text : String}
    (htext : Text.isBlankText text = false) (hint : Option String) :
    AnswersLookup held directory text hint (s.findByToken directory text hint).outcome := by
  rcases h.findByToken_cases directory htext hint with
    ⟨howners, hfound⟩ | ⟨id, a, row, howners, ha, hwritten, hfound⟩ | ⟨i, j, hne, hi, hj, hfound⟩
  · rw [hfound]
    exact .of_no_owner howners
  · rw [hfound]
    refine .of_only_owner howners ha (fun i b hb => (h.written i b hb).1) (fun hclient => ?_)
      (fun hclient => ?_)
    · rw [Row.load_of_registered hwritten (hheld id a ha) hclient]
      rfl
    · rw [← hwritten.registeredClientId] at hclient ⊢
      rw [Row.outcome_load_of_unregistered hclient]
      rfl
  · rw [hfound]
    exact .of_several_owners hne hi hj

/-- After any run from nothing, a lookup by token fails as one without a text exactly for a blank
one, and otherwise answers for what was saved last. What an authorization has as its id token only
does not make it an owner. -/
theorem findByToken_run {requests : List Request}
    (hsaved : ∀ a, .save (some a) ∈ requests → a.WellFormed) (text : String)
    (hint : Option String) :
    ((∃ message, ((empty.run requests).store.findByToken (empty.run requests).directory text
        hint).outcome = .error (.failure (.precondition message))) ↔
      Text.isBlankText text = true) ∧
    (Text.isBlankText text = false →
      AnswersLookup (lastSaved requests) (empty.run requests).directory text hint
        ((empty.run requests).store.findByToken (empty.run requests).directory text
          hint).outcome) ∧
    ∀ id a, lastSaved requests id = some a → a.lookupText "state" ≠ some text →
      (∀ slot t, a.tokens slot = some t → t.value = text → slot = .id) →
      id ∉ (lastSaved requests).owners text hint := by
  have hstore := represents_run requests
  have hheld := lastSaved_forall hsaved
  have hanswer : Text.isBlankText text = false →
      AnswersLookup (lastSaved requests) (empty.run requests).directory text hint
        ((empty.run requests).store.findByToken (empty.run requests).directory text
          hint).outcome := fun htext => hstore.answersLookup hheld _ htext hint
  refine ⟨⟨?_, fun hblank => ?_⟩, hanswer, ?_⟩
  · rintro ⟨message, hmessage⟩
    by_contra hblank
    rw [Bool.not_eq_true] at hblank
    exact (hanswer hblank).ne_precondition message hmessage
  · exact Store.outcome_findByToken_of_blank _ _ hblank hint
  · rintro id a ha hstate hvalues ⟨b, hb, name, _, hname⟩
    rw [ha] at hb
    rw [← Option.some_inj.mp hb] at hname
    rcases Authorization.lookupText_eq_some hname with h | ⟨slot, t, hslot, ht, hvalue⟩
    · exact hstate h
    · exact hslot (hvalues slot t ht hvalue)

/-! ## A run -/

/-- The sample with a state that is not a text. -/
def switchedAuthorization : Authorization :=
  { sampleAuthorization with attributes := [("state", .bool true)] }

theorem switchedAuthorization_wellFormed : switchedAuthorization.WellFormed where
  valid := Authorization.brokenRule?_eq_none_iff.mp rfl
  keysOnce := Authorization.keysOnce_of_all rfl rfl

/-- Its client is registered and it is saved. -/
def switchedRequests : List Request :=
  [.register sampleClient, .save (some switchedAuthorization)]

theorem switchedRequests_wellFormed : ∀ a, .save (some a) ∈ switchedRequests → a.WellFormed :=
  forall_saved sampleClient switchedAuthorization_wellFormed

/-- By the text of its state the authorization is found with the hint for it as without one, by a
hint for the id token nothing is, and a blank text is refused. -/
theorem findByToken_run_sample :
    ((empty.run switchedRequests).store.findByToken (empty.run switchedRequests).directory "True"
        (some "state")).outcome = .ok (some switchedAuthorization.normal) ∧
      ((empty.run switchedRequests).store.findByToken (empty.run switchedRequests).directory "True"
        none).outcome = .ok (some switchedAuthorization.normal) ∧
      ((empty.run switchedRequests).store.findByToken (empty.run switchedRequests).directory "True"
        (some "id_token")).outcome = .ok none ∧
      ∃ message, ((empty.run switchedRequests).store.findByToken
        (empty.run switchedRequests).directory " " none).outcome =
          .error (.failure (.precondition message)) := by
  have hheld : lastSaved switchedRequests "a1" = some switchedAuthorization := rfl
  have honly : ∀ other, other ≠ "a1" → lastSaved switchedRequests other = none := fun other h =>
    if_neg h
  have hstate : switchedAuthorization.lookupText "state" = some "True" := rfl
  have hregistered : (empty.run switchedRequests).directory.Registered "c1" := rfl
  have hanswers := fun hint => (findByToken_run switchedRequests_wellFormed "True" hint).2.1
    (by decide)
  have hblank : Text.isBlankText " " = true := by decide
  refine ⟨?_, ?_, (hanswers (some "id_token")).unsearchable (by decide),
    (findByToken_run switchedRequests_wellFormed " " none).1.mpr hblank⟩
  · exact ((hanswers (some "state")).present_iff _ _ hheld hregistered).mpr
      (Holdings.owners_eq_singleton hheld honly (by decide) hstate)
  · exact ((hanswers none).present_iff _ _ hheld hregistered).mpr
      (Holdings.owners_eq_singleton hheld honly (by decide) hstate)

end GrantKeeper
