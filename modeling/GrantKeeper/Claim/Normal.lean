/-
The normal form of claims: what is left of a claim once it has been written and read again. A set
becomes the list of its items in the order of their texts, and a timestamp its ISO 8601 text.

A claim and its normal form are written alike (`Claim.written_normal`).
-/
import GrantKeeper.Json.Writer

namespace GrantKeeper

open Json

namespace Claim

mutual

def normal : Claim → Claim
  | .time t => .text t.isoText
  | .list items => .list (normalItems items)
  | .set items => .list (byKey (keyedNormals items))
  | .map entries => .map (normalEntries entries)
  | c => c

def normalItems : List Claim → List Claim
  | [] => []
  | x :: xs => normal x :: normalItems xs

/-- The normal forms of the items of a set, each under its item's text. -/
def keyedNormals : List Claim → List (String × Claim)
  | [] => []
  | x :: xs => (x.toText, normal x) :: keyedNormals xs

/-- The entries of a map with their values in normal form. -/
def normalEntries : List (String × Claim) → List (String × Claim)
  | [] => []
  | (key, x) :: xs => (key, normal x) :: normalEntries xs

end

/-! ## Lists -/

theorem writtenItems_eq_map (xs : List Claim) : writtenItems xs = xs.map written := by
  induction xs with
  | nil => rfl
  | cons x xs ih => rw [writtenItems, ih, List.map_cons]

theorem keyedItems_eq_map (xs : List Claim) :
    keyedItems xs = xs.map fun x => (x.toText, written x) := by
  induction xs with
  | nil => rfl
  | cons x xs ih => rw [keyedItems, ih, List.map_cons]

theorem keyedNormals_eq_map (xs : List Claim) :
    keyedNormals xs = xs.map fun x => (x.toText, normal x) := by
  induction xs with
  | nil => rfl
  | cons x xs ih => rw [keyedNormals, ih, List.map_cons]

theorem normalItems_eq_map (xs : List Claim) : normalItems xs = xs.map normal := by
  induction xs with
  | nil => rfl
  | cons x xs ih => rw [normalItems, ih, List.map_cons]

theorem normalEntries_eq_map (xs : List (String × Claim)) :
    normalEntries xs = xs.map fun (key, x) => (key, normal x) := by
  induction xs with
  | nil => rfl
  | cons x xs ih => rw [normalEntries, ih, List.map_cons]

/-! ## The written form -/

/-- The order of values by their keys does not depend on the values. -/
theorem byKey_map (f : α → β) (pairs : List (String × α)) :
    byKey (pairs.map fun p => (p.1, f p.2)) = (byKey pairs).map f := by
  have sorted := List.map_mergeSort (r := fun a b : String × α => decide (a.1 ≤ b.1))
    (s := fun a b : String × β => decide (a.1 ≤ b.1)) (f := fun p => (p.1, f p.2)) (l := pairs)
    fun _ _ _ _ => rfl
  rw [byKey, byKey, ← sorted, List.map_map, List.map_map]
  rfl

mutual

/-- A claim and its normal form are written alike. -/
theorem written_normal (c : Claim) : c.normal.written = c.written :=
  match c with
  | .null | .bool _ | .int _ | .real _ | .text _ | .time _ | .binary _ | .handle => by
    simp [normal, written]
  | .list items => by
    rw [normal, written, written, writtenItems_normalItems items]
  | .set items => by
    rw [normal, written, written, writtenItems_eq_map, ← byKey_map, keyedNormals_eq_map,
      List.map_map, keyedItems_eq_map]
    have same := writtenItems_normalItems items
    rw [normalItems_eq_map, writtenItems_eq_map, writtenItems_eq_map, List.map_map] at same
    have pairs : items.map ((fun p : String × Claim => (p.1, p.2.written)) ∘
        fun x => (x.toText, x.normal)) = items.map fun x => (x.toText, x.written) :=
      List.map_congr_left fun x hx => by
        simpa using List.map_inj_left.mp same x hx
    rw [pairs]
  | .map entries => by
    rw [normal, written, written, writtenEntries_normalEntries entries]

theorem writtenItems_normalItems (items : List Claim) :
    writtenItems (normalItems items) = writtenItems items :=
  match items with
  | [] => rfl
  | x :: xs => by
    rw [normalItems, writtenItems, writtenItems, written_normal x, writtenItems_normalItems xs]

theorem writtenEntries_normalEntries (entries : List (String × Claim)) :
    writtenEntries (normalEntries entries) = writtenEntries entries :=
  match entries with
  | [] => rfl
  | (key, x) :: xs => by
    rw [normalEntries, writtenEntries, writtenEntries, written_normal x,
      writtenEntries_normalEntries xs]

end

end Claim

/-- The normal form of a claim map. -/
def Claims.normal (claims : Claims) : Claims :=
  Claim.normalEntries claims

end GrantKeeper
