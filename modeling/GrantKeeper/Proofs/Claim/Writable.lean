/-
Which claims can be written.

A claim is written as soon as everything found in it can be (`fault?_eq_none_iff`): it holds neither
binary data nor an opaque handle and no integer of more than 4300 digits, at any depth.  A claim map
in which something cannot be written is `Faulty`, and encoding it fails, whatever the field.
-/
import GrantKeeper.Claim.Stored
import GrantKeeper.Proofs.Claim.Parts
import GrantKeeper.Proofs.Number.Digits

namespace GrantKeeper

open Json

theorem oversized_eq_false_iff {n : Int} :
    oversized n = false ↔ (decimal n.natAbs).length ≤ digitLimit := by
  have hpos : 0 < digitLimit := by decide
  rw [oversized, decide_eq_false_iff_not, Nat.not_le, Nat.pow_eq, length_decimal_le_iff hpos]

namespace Claim

theorem itemsFault?_eq_none_iff {items : List Claim} :
    itemsFault? items = none ↔ ∀ x ∈ items, x.fault? = none := by
  induction items with
  | nil => simp [itemsFault?]
  | cons y ys ih => rw [itemsFault?, Option.or_eq_none_iff, ih, List.forall_mem_cons]

theorem entriesFault?_eq_findSome? (entries : List (String × Claim)) :
    entriesFault? entries = entries.findSome? fun e => e.2.fault? := by
  induction entries with
  | nil => rfl
  | cons y ys ih =>
    rw [entriesFault?, ih, List.findSome?_cons]
    cases y.2.fault? <;> rfl

theorem entriesFault?_eq_none_iff {entries : List (String × Claim)} :
    entriesFault? entries = none ↔ ∀ e ∈ entries, e.2.fault? = none := by
  rw [entriesFault?_eq_findSome?, List.findSome?_eq_none_iff]

theorem keyedFaults_eq_map (xs : List Claim) :
    keyedFaults xs = xs.map fun x => (x.toText, x.fault?) := by
  induction xs with
  | nil => rfl
  | cons x xs ih => rw [keyedFaults, ih, List.map_cons]

theorem fault?_of_mem_set {items : List Claim} (h : (Claim.set items).fault? = none) :
    ∀ x ∈ items, x.fault? = none := by
  intro x hx
  rw [Claim.fault?] at h
  split at h
  · cases h
  · rw [List.findSome?_eq_none_iff] at h
    -- The faults are looked through in the order of the texts, which leaves none of them out.
    refine h _ ((perm_byKey _).mem_iff.mpr ?_)
    rw [keyedFaults_eq_map, List.map_map]
    exact List.mem_map_of_mem hx

/-- A claim that can be written if its parts can. -/
def Encodable : Claim → Prop
  | .int n => (decimal n.natAbs).length ≤ 4300
  | .binary _ | .handle => False
  | _ => True

theorem anyOversized_eq_false_iff {items : List Claim} :
    anyOversized items = false ↔ ∀ x ∈ items, x.hasOversized = false := by
  induction items with
  | nil => simp [anyOversized]
  | cons y ys ih => rw [anyOversized, Bool.or_eq_false_iff, ih, List.forall_mem_cons]

theorem anyOversizedEntry_eq_false_iff {entries : List (String × Claim)} :
    anyOversizedEntry entries = false ↔ ∀ e ∈ entries, e.2.hasOversized = false := by
  induction entries with
  | nil => simp [anyOversizedEntry]
  | cons y ys ih => rw [anyOversizedEntry, Bool.or_eq_false_iff, ih, List.forall_mem_cons]

/-- What can be written holds no integer that is too long. -/
theorem hasOversized_of_fault?_eq_none {c : Claim} : c.fault? = none → c.hasOversized = false := by
  induction c using induct with
  | step c ih =>
    intro hfault
    cases c with
    | int n =>
      rw [fault?] at hfault
      rw [hasOversized]
      by_contra hn
      rw [Bool.not_eq_false] at hn
      rw [if_pos hn] at hfault
      cases hfault
    | list items =>
      rw [fault?, itemsFault?_eq_none_iff] at hfault
      rw [hasOversized, anyOversized_eq_false_iff]
      intro x hx
      exact ih x hx (hfault x hx)
    | set items =>
      rw [hasOversized, anyOversized_eq_false_iff]
      intro x hx
      exact ih x hx (fault?_of_mem_set hfault x hx)
    | map entries =>
      rw [fault?, entriesFault?_eq_none_iff] at hfault
      rw [hasOversized, anyOversizedEntry_eq_false_iff]
      intro e he
      exact ih e.2 (List.mem_map_of_mem he) (hfault e he)
    | _ => rfl

/-- Sorting the items of a set by their texts is no obstacle where each of them can be written. -/
theorem fault?_set_eq_none_iff {items : List Claim} :
    (Claim.set items).fault? = none ↔ ∀ x ∈ items, x.fault? = none := by
  constructor
  · exact fault?_of_mem_set
  · intro h
    have hsize : anyOversized items = false :=
      anyOversized_eq_false_iff.mpr fun x hx => hasOversized_of_fault?_eq_none (h x hx)
    rw [fault?, hsize, if_neg (by decide), List.findSome?_eq_none_iff]
    intro fault hmem
    have hkeyed := (perm_byKey _).mem_iff.mp hmem
    rw [keyedFaults_eq_map, List.map_map] at hkeyed
    obtain ⟨x, hx, rfl⟩ := List.mem_map.mp hkeyed
    exact h x hx

/-- A claim can be written if it is encodable and its parts can be written. -/
theorem fault?_eq_none_iff_parts (c : Claim) :
    c.fault? = none ↔ c.Encodable ∧ ∀ x ∈ c.parts, x.fault? = none := by
  cases c with
  | int n =>
    have hsize : (Claim.int n).Encodable ↔ oversized n = false := oversized_eq_false_iff.symm
    rw [fault?, hsize]
    cases oversized n <;> simp [parts]
  | list items =>
    rw [fault?, itemsFault?_eq_none_iff]
    exact (and_iff_right trivial).symm
  | set items =>
    rw [fault?_set_eq_none_iff]
    exact (and_iff_right trivial).symm
  | map entries =>
    rw [fault?, entriesFault?_eq_none_iff, parts, List.forall_mem_map]
    exact (and_iff_right trivial).symm
  | _ => simp [fault?, Encodable, parts]

theorem fault?_eq_none_iff {c : Claim} :
    c.fault? = none ↔ ∀ x : Claim, x.Within c → x.Encodable :=
  iff_forall_within fault?_eq_none_iff_parts c

end Claim

namespace Claims

/-- Something in a claim map, at whatever depth, cannot be written. -/
def Faulty (claims : Claims) : Prop :=
  ∃ x : Claim, x.Within (.map claims) ∧ ¬x.Encodable

theorem faulty_iff {claims : Claims} :
    claims.Faulty ↔ ∃ fault, (Claim.map claims).fault? = some fault := by
  rw [← Option.ne_none_iff_exists', Ne, Claim.fault?_eq_none_iff, Faulty]
  simp only [not_forall, exists_prop]

/-- What encoding a field fails with. -/
def encodeFault (field : String) (fault : WriteFault) : Fault :=
  .failure (.serialization field (some s!"Unable to encode field '{field}': {fault.message}"))

/-- Encoding fails with the first fault of the map, and it names the field. -/
theorem encode_eq (claims : Claims) (field : String) :
    claims.encode field =
      match (Claim.map claims).fault? with
      | none => .ok (String.ofList (Claim.map claims).written)
      | some fault => .error (encodeFault field fault) := by
  unfold encode toJson
  cases (Claim.map claims).fault? <;> rfl

theorem fault?_append (a b : Claims) :
    (Claim.map (a ++ b)).fault? = ((Claim.map a).fault?).or ((Claim.map b).fault?) := by
  simp only [Claim.fault?, Claim.entriesFault?_eq_findSome?, List.findSome?_append]

end Claims
end GrantKeeper
