/-
Claim maps in which each key stands once, at every depth.

A map is a list of entries, so that this has to be said where text is read back: reading merges
the entries of one key.  Where each key stands once there is nothing to merge
(`ofEntries_of_nodup`), and every operation on maps keeps it so.
-/
import GrantKeeper.Claim.Normal
import GrantKeeper.Proofs.Claim.Parts

namespace GrantKeeper

namespace Claim

mutual

/-- Whether each key stands once in every map of a claim. -/
def keysOnce : Claim → Bool
  | .list items | .set items => itemsKeysOnce items
  | .map entries => decide (entries.map (·.1)).Nodup && entriesKeysOnce entries
  | _ => true

def itemsKeysOnce : List Claim → Bool
  | [] => true
  | x :: xs => keysOnce x && itemsKeysOnce xs

def entriesKeysOnce : List (String × Claim) → Bool
  | [] => true
  | (_, x) :: xs => keysOnce x && entriesKeysOnce xs

end

theorem itemsKeysOnce_iff {xs : List Claim} :
    itemsKeysOnce xs = true ↔ ∀ x ∈ xs, x.keysOnce = true := by
  induction xs with
  | nil => simp [itemsKeysOnce]
  | cons x xs ih => simp [itemsKeysOnce, ih]

theorem entriesKeysOnce_iff {xs : List (String × Claim)} :
    entriesKeysOnce xs = true ↔ ∀ x ∈ xs, x.2.keysOnce = true := by
  induction xs with
  | nil => simp [entriesKeysOnce]
  | cons x xs ih =>
    obtain ⟨key, value⟩ := x
    simp [entriesKeysOnce, ih]

theorem keysOnce_map_iff {entries : List (String × Claim)} :
    (Claim.map entries).keysOnce = true ↔
      (entries.map (·.1)).Nodup ∧ ∀ e ∈ entries, e.2.keysOnce = true := by
  rw [keysOnce, Bool.and_eq_true, decide_eq_true_iff, entriesKeysOnce_iff]

/-- A claim that, if it is a map, holds each key once. -/
def KeysNodup : Claim → Prop
  | .map entries => (entries.map (·.1)).Nodup
  | _ => True

theorem keysOnce_iff_parts (c : Claim) :
    c.keysOnce = true ↔ c.KeysNodup ∧ ∀ x ∈ c.parts, x.keysOnce = true := by
  cases c with
  | list items =>
    rw [keysOnce, itemsKeysOnce_iff]
    exact (and_iff_right trivial).symm
  | set items =>
    rw [keysOnce, itemsKeysOnce_iff]
    exact (and_iff_right trivial).symm
  | map entries =>
    rw [keysOnce_map_iff, KeysNodup, parts, List.forall_mem_map]
  | _ => simp [keysOnce, KeysNodup, parts]

theorem keysOnce_iff_within {c : Claim} :
    c.keysOnce = true ↔ ∀ x : Claim, x.Within c → x.KeysNodup :=
  iff_forall_within keysOnce_iff_parts c

end Claim

namespace Claims

/-- Whether each key stands once in a map and in the maps of its values. -/
def keysOnce (claims : Claims) : Bool :=
  (Claim.map claims).keysOnce

theorem keysOnce_iff {claims : Claims} :
    claims.keysOnce = true ↔
      (claims.map (·.1)).Nodup ∧ ∀ e ∈ claims, e.2.keysOnce = true :=
  Claim.keysOnce_map_iff

theorem has_iff_mem_keys {claims : Claims} {key : String} :
    claims.has key = true ↔ key ∈ claims.map (·.1) := by
  simp [has]

/-! ## Operations on maps -/

theorem put_of_not_has {claims : Claims} {key : String} (h : claims.has key = false)
    (value : Claim) : claims.put key value = claims ++ [(key, value)] := by
  induction claims with
  | nil => rfl
  | cons entry rest ih =>
    rw [has, List.any_cons, Bool.or_eq_false_iff] at h
    have hne : entry.1 ≠ key := by simpa using h.1
    rw [put, if_neg hne, ih h.2, List.cons_append]

theorem ofEntries_from {entries : List (String × Claim)} (claims : Claims)
    (h : ((claims ++ entries).map (·.1)).Nodup) :
    entries.foldl (fun claims (key, value) => claims.put key value) claims = claims ++ entries := by
  induction entries generalizing claims with
  | nil => simp
  | cons entry rest ih =>
    obtain ⟨key, value⟩ := entry
    have hsplit : claims ++ (key, value) :: rest = claims ++ [(key, value)] ++ rest := by simp
    have habsent : claims.has key = false := by
      rw [List.map_append, List.nodup_append] at h
      rw [Bool.eq_false_iff, Ne, has_iff_mem_keys]
      intro hmem
      exact h.2.2 _ hmem _ List.mem_cons_self rfl
    rw [hsplit] at h
    rw [List.foldl_cons, hsplit, ← ih _ h, ← put_of_not_has habsent]

theorem ofEntries_of_nodup {entries : List (String × Claim)} (h : (entries.map (·.1)).Nodup) :
    ofEntries entries = entries :=
  ofEntries_from [] h

theorem keys_put (claims : Claims) (key : String) (value : Claim) :
    (claims.put key value).map (·.1) =
      if claims.has key then claims.map (·.1) else claims.map (·.1) ++ [key] := by
  induction claims with
  | nil => rfl
  | cons entry rest ih =>
    rw [put, has, List.any_cons, ← has]
    by_cases h : entry.1 = key
    · simp [h]
    · rw [if_neg h, List.map_cons, ih, beq_false_of_ne h, Bool.false_or]
      split <;> rfl

theorem nodup_keys_put {claims : Claims} (h : (claims.map (·.1)).Nodup) (key : String)
    (value : Claim) : ((claims.put key value).map (·.1)).Nodup := by
  rw [keys_put]
  split
  · exact h
  · next hkey =>
    rw [has_iff_mem_keys] at hkey
    exact List.nodup_append.mpr ⟨h, by simp, fun a ha b hb hab => by
      rw [List.mem_singleton.mp hb] at hab
      exact hkey (hab ▸ ha)⟩

theorem nodup_keys_ofEntries (entries : List (String × Claim)) :
    ((ofEntries entries).map (·.1)).Nodup :=
  have hempty : (([] : Claims).map (·.1)).Nodup := List.nodup_nil
  List.foldlRecOn (motive := fun claims : Claims => (claims.map (·.1)).Nodup) entries _ hempty
    fun _ h entry _ => nodup_keys_put h entry.1 entry.2

theorem mem_put {claims : Claims} {key : String} {value : Claim} {e : String × Claim}
    (h : e ∈ claims.put key value) : e ∈ claims ∨ e = (key, value) := by
  induction claims with
  | nil => exact Or.inr (List.mem_singleton.mp h)
  | cons entry rest ih =>
    rw [put] at h
    split at h
    · rcases List.mem_cons.mp h with h | h
      · exact Or.inr h
      · exact Or.inl (List.mem_cons_of_mem entry h)
    · rcases List.mem_cons.mp h with h | h
      · exact Or.inl (h ▸ List.mem_cons_self)
      · exact (ih h).imp_left (List.mem_cons_of_mem entry)

theorem mem_of_mem_ofEntries {entries : List (String × Claim)} :
    ∀ e ∈ ofEntries entries, e ∈ entries :=
  List.foldlRecOn (motive := fun claims : Claims => ∀ e ∈ claims, e ∈ entries) entries _
    (fun e he => by cases he) fun claims h entry hentry e he => by
      rcases mem_put he with he | rfl
      · exact h e he
      · exact hentry

theorem keysOnce_append_single {claims : Claims} {key : String} {value : Claim}
    (h : claims.keysOnce = true) (hkey : claims.has key = false) (hvalue : value.keysOnce = true) :
    keysOnce (claims ++ [(key, value)]) = true := by
  obtain ⟨hnodup, hvalues⟩ := keysOnce_iff.mp h
  have hmem : key ∉ claims.map (·.1) := by
    rw [← has_iff_mem_keys, hkey]
    simp
  refine keysOnce_iff.mpr ⟨?_, fun e he => ?_⟩
  · rw [List.map_append, List.nodup_append]
    refine ⟨hnodup, by simp, fun a ha b hb => ?_⟩
    rw [List.map_singleton, List.mem_singleton] at hb
    rintro rfl
    rw [hb] at ha
    exact hmem ha
  · rcases List.mem_append.mp he with he | he
    · exact hvalues e he
    · rw [List.mem_singleton.mp he]
      exact hvalue

theorem keysOnce_erase {claims : Claims} (h : claims.keysOnce = true) (key : String) :
    (claims.erase key).keysOnce = true := by
  obtain ⟨hnodup, hvalues⟩ := keysOnce_iff.mp h
  exact keysOnce_iff.mpr ⟨hnodup.sublist (List.filter_sublist.map _), fun e he =>
    hvalues e (List.mem_filter.mp he).1⟩

theorem keysOnce_putIfAbsent {claims : Claims} (h : claims.keysOnce = true) {key : String}
    {value : Claim} (hvalue : value.keysOnce = true) :
    (claims.putIfAbsent key value).keysOnce = true := by
  unfold putIfAbsent
  split
  · exact h
  · next habsent =>
    rw [Bool.not_eq_true] at habsent
    rw [put_of_not_has habsent]
    exact keysOnce_append_single h habsent hvalue

theorem keys_normal (claims : Claims) : claims.normal.map (·.1) = claims.map (·.1) := by
  rw [normal, Claim.normalEntries_eq_map, List.map_map]
  rfl

end Claims
end GrantKeeper
