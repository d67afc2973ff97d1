/-
The store: the rows of the table in the order in which they were inserted, each id once.
-/
import GrantKeeper.Store.Row

namespace GrantKeeper

/-- The rows of the table. -/
structure Store where
  rows : List Row
  ids_nodup : (rows.map (·.id)).Nodup

namespace Store

/-- The store without rows. -/
def empty : Store := ⟨[], .nil⟩

def ids (s : Store) : List String :=
  s.rows.map (·.id)

def find? (s : Store) (id : String) : Option Row :=
  s.rows.find? (·.id == id)

/-! ## Rows in place -/

/-- The rows with another in the place of the one of its id, or at the end. -/
def putRow (row : Row) : List Row → List Row
  | [] => [row]
  | r :: rest => if r.id = row.id then row :: rest else r :: putRow row rest

/-- The rows, changed where they have an id, which they keep. -/
def modifyRows (id : String) (change : Row → Row) (rows : List Row) : List Row :=
  rows.map fun r => if r.id = id then { change r with id := id } else r

theorem mem_ids_putRow {row : Row} {rows : List Row} {id : String} :
    id ∈ (putRow row rows).map (·.id) ↔ id = row.id ∨ id ∈ rows.map (·.id) := by
  induction rows with
  | nil => simp [putRow]
  | cons r rest ih =>
    simp only [putRow]
    split
    · next h => simp [h]
    · rw [List.map_cons, List.mem_cons, ih, List.map_cons, List.mem_cons, or_left_comm]

theorem ids_putRow_nodup {row : Row} {rows : List Row} (h : (rows.map (·.id)).Nodup) :
    ((putRow row rows).map (·.id)).Nodup := by
  induction rows with
  | nil => simp [putRow]
  | cons r rest ih =>
    rw [List.map_cons, List.nodup_cons] at h
    simp only [putRow]
    split
    · next same =>
      rw [List.map_cons, List.nodup_cons, ← same]
      exact h
    · next differ =>
      rw [List.map_cons, List.nodup_cons, mem_ids_putRow]
      exact ⟨fun hr => hr.elim differ h.1, ih h.2⟩

theorem ids_modifyRows (id : String) (change : Row → Row) (rows : List Row) :
    (modifyRows id change rows).map (·.id) = rows.map (·.id) := by
  simp only [modifyRows, List.map_map]
  apply List.map_congr_left
  intro r _
  simp only [Function.comp_apply]
  split
  · next h => exact h.symm
  · rfl

/-! ## Operations -/

/-- The store with a row in the place of the one of its id, or after all others. -/
def put (s : Store) (row : Row) : Store :=
  ⟨putRow row s.rows, ids_putRow_nodup s.ids_nodup⟩

/-- The store without the row of an id. -/
def erase (s : Store) (id : String) : Store :=
  ⟨s.rows.filter (·.id != id), s.ids_nodup.sublist ((List.filter_sublist).map _)⟩

/-- The store with the row of an id changed behind its back. The id stays. -/
def modify (s : Store) (id : String) (change : Row → Row) : Store :=
  ⟨modifyRows id change s.rows, ids_modifyRows id change s.rows ▸ s.ids_nodup⟩

/-- How many rows have an id. -/
def count (s : Store) (id : String) : Nat :=
  s.rows.countP (·.id == id)

@[simp] theorem find?_empty (id : String) : empty.find? id = none := rfl

@[simp] theorem find?_put_self (s : Store) (row : Row) : (s.put row).find? row.id = some row := by
  simp only [find?, put]
  induction s.rows with
  | nil => simp [putRow]
  | cons r rest ih =>
    simp only [putRow]
    split
    · simp
    · next h => rw [List.find?_cons_of_neg (by simpa using h), ih]

theorem find?_put_of_ne (s : Store) {row : Row} {id : String} (h : id ≠ row.id) :
    (s.put row).find? id = s.find? id := by
  simp only [find?, put]
  induction s.rows with
  | nil => simp [putRow, Ne.symm h]
  | cons r rest ih =>
    simp only [putRow]
    split
    · next same =>
      rw [List.find?_cons_of_neg (by simpa using Ne.symm h),
        List.find?_cons_of_neg (by simpa [same] using Ne.symm h)]
    · by_cases hr : r.id = id
      · rw [List.find?_cons_of_pos (by simpa using hr), List.find?_cons_of_pos (by simpa using hr)]
      · rw [List.find?_cons_of_neg (by simpa using hr), List.find?_cons_of_neg (by simpa using hr),
          ih]

@[simp] theorem find?_erase_self (s : Store) (id : String) : (s.erase id).find? id = none := by
  simp [find?, erase]

theorem find?_erase_of_ne (s : Store) {id other : String} (h : other ≠ id) :
    (s.erase id).find? other = s.find? other := by
  simp only [find?, erase, List.find?_filter]
  congr 1
  funext r
  by_cases hr : r.id = other
  · simp [hr, h]
  · simp [hr]

end Store
end GrantKeeper
