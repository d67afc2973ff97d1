/-
Sets of scopes, and the column that holds one as text.

A set is a strictly increasing list, so two sets with the same scopes are equal (`ScopeSet.ext`) and
what is written of a set does not depend on the order in which its scopes came.
-/
import GrantKeeper.Text.Blank
import GrantKeeper.Text.Pieces

namespace GrantKeeper

/-- A finite set of scopes, listed in the order of their characters. -/
structure ScopeSet where
  toList : List String
  sorted : toList.Pairwise (· < ·)
  deriving DecidableEq

namespace ScopeSet

def insertSorted (scope : String) : List String → List String
  | [] => [scope]
  | s :: rest =>
    if scope < s then scope :: s :: rest
    else if scope = s then s :: rest
    else s :: insertSorted scope rest

theorem mem_insertSorted {scope x : String} {l : List String} :
    x ∈ insertSorted scope l ↔ x = scope ∨ x ∈ l := by
  induction l with
  | nil => simp [insertSorted]
  | cons s rest ih =>
    simp only [insertSorted]
    split
    · simp
    · split
      · next h => simp [h]
      · simp [ih, or_left_comm]

theorem insertSorted_pairwise {scope : String} {l : List String} (h : l.Pairwise (· < ·)) :
    (insertSorted scope l).Pairwise (· < ·) := by
  induction l with
  | nil => simp [insertSorted]
  | cons s rest ih =>
    obtain ⟨before, hrest⟩ := List.pairwise_cons.mp h
    simp only [insertSorted]
    split
    · next lt =>
      exact List.pairwise_cons.mpr ⟨fun x hx => by
        rcases List.mem_cons.mp hx with rfl | hx
        · exact lt
        · exact String.lt_trans lt (before x hx), h⟩
    · next notLt =>
      split
      · exact h
      · next ne =>
        refine List.pairwise_cons.mpr ⟨fun x hx => ?_, ih hrest⟩
        rcases mem_insertSorted.mp hx with rfl | hx
        · exact Decidable.byContradiction fun notGt =>
            ne (String.le_antisymm (String.not_lt.mp notGt) (String.not_lt.mp notLt))
        · exact before x hx

def empty : ScopeSet := ⟨[], .nil⟩

def insert (scope : String) (set : ScopeSet) : ScopeSet :=
  ⟨insertSorted scope set.toList, insertSorted_pairwise set.sorted⟩

def ofList (scopes : List String) : ScopeSet :=
  scopes.foldr insert empty

instance : Membership String ScopeSet := ⟨fun set scope => scope ∈ set.toList⟩

def isEmpty (set : ScopeSet) : Bool :=
  set.toList.isEmpty

theorem mem_def {scope : String} {set : ScopeSet} : scope ∈ set ↔ scope ∈ set.toList := Iff.rfl

theorem mem_ofList {scope : String} {scopes : List String} :
    scope ∈ ofList scopes ↔ scope ∈ scopes := by
  induction scopes with
  | nil => simp [ofList, empty, mem_def]
  | cons s rest ih =>
    rw [List.mem_cons, ← ih]
    exact mem_insertSorted

theorem toList_eq_of_mem_iff {l m : List String} (hl : l.Pairwise (· < ·))
    (hm : m.Pairwise (· < ·)) (h : ∀ x, x ∈ l ↔ x ∈ m) : l = m := by
  induction l generalizing m with
  | nil =>
    cases m with
    | nil => rfl
    | cons b m => simpa using h b
  | cons a l ih =>
    cases m with
    | nil => simpa using h a
    | cons b m =>
      obtain ⟨beforeA, tailA⟩ := List.pairwise_cons.mp hl
      obtain ⟨beforeB, tailB⟩ := List.pairwise_cons.mp hm
      have eq : a = b := by
        rcases List.mem_cons.mp ((h a).mp List.mem_cons_self) with eq | ha
        · exact eq
        · rcases List.mem_cons.mp ((h b).mpr List.mem_cons_self) with eq | hb
          · exact eq.symm
          · exact absurd (beforeA b hb) (String.lt_asymm (beforeB a ha))
      subst eq
      congr 1
      refine ih tailA tailB fun x => ⟨fun hx => ?_, fun hx => ?_⟩
      · rcases List.mem_cons.mp ((h x).mp (List.mem_cons_of_mem _ hx)) with eq | hx'
        · exact absurd (eq ▸ beforeA x hx) (String.lt_irrefl _)
        · exact hx'
      · rcases List.mem_cons.mp ((h x).mpr (List.mem_cons_of_mem _ hx)) with eq | hx'
        · exact absurd (eq ▸ beforeB x hx) (String.lt_irrefl _)
        · exact hx'

/-- Two sets with the same scopes are equal. -/
theorem ext {a b : ScopeSet} (h : ∀ scope, scope ∈ a ↔ scope ∈ b) : a = b := by
  obtain ⟨l, hl⟩ := a
  obtain ⟨m, hm⟩ := b
  have eq : l = m := toList_eq_of_mem_iff hl hm h
  subst eq
  rfl

/-! ## Text -/

/-- The scopes in their order with a separator between them. -/
def textWith (separator : Char) (set : ScopeSet) : String :=
  String.ofList (Text.joined separator (set.toList.map String.toList))

/-- What stands between the scopes of a column. -/
def columnSeparator : Char := ','

def toColumn (set : ScopeSet) : String :=
  set.textWith columnSeparator

/-- The scopes in a column's text, trimmed, those of blanks only left out. -/
def scopesIn (s : String) : List String :=
  ((Text.pieces columnSeparator s.toList).map fun p => Text.trim (String.ofList p)).filter (· ≠ "")

/-- The set a column holds; without text, the empty one. -/
def ofColumn (column : Option String) : ScopeSet :=
  ofList ((column.map scopesIn).getD [])

end ScopeSet
end GrantKeeper
