/-
Claims whose sets present their items in another order.

A set has its items in no order, but they come in some order when it is looked through.  Writing
goes by the order of their texts, so as long as no two items of a set have the same text, nothing of
the order in which they came is left (`byText_eq_of_perm`), in a set at whatever depth
(`Reordered.congr`).  So two presentations of a claim map are encoded alike, and where one cannot be
written, neither can the other, for the same fault (`Claims.Reordered.encode_eq`).
-/
import GrantKeeper.Proofs.Claim.Normal
import Mathlib.Data.List.Forall2

namespace GrantKeeper

open Json

namespace Claim

/-- Two presentations of a claim, which differ at most in the order in which the items of its sets
come. -/
inductive Reordered : Claim → Claim → Prop
  | same (c : Claim) : Reordered c c
  | list {items items' : List Claim} (hitems : List.Forall₂ Reordered items items') :
    Reordered (.list items) (.list items')
  | set {items items' : List Claim} (hitems : items.Perm items') :
    Reordered (.set items) (.set items')
  | map {entries entries' : List (String × Claim)}
    (hkeys : entries.map (·.1) = entries'.map (·.1))
    (hvalues : List.Forall₂ Reordered (entries.map (·.2)) (entries'.map (·.2))) :
    Reordered (.map entries) (.map entries')

/-- A claim that, if it is a set, has no two items of one text. -/
def ItemsDistinct : Claim → Prop
  | .set items => ∀ x ∈ items, ∀ y ∈ items, x.toText = y.toText → x = y
  | _ => True

/-- The items of every set that is found in a claim are told apart by their texts. -/
def TextsDistinct (c : Claim) : Prop :=
  ∀ x : Claim, x.Within c → x.ItemsDistinct

/-- No set is found in a claim. -/
def Setless (c : Claim) : Prop :=
  ∀ items, ¬(Claim.set items).Within c

theorem textsDistinct_iff_parts {c : Claim} :
    c.TextsDistinct ↔ c.ItemsDistinct ∧ ∀ x ∈ c.parts, x.TextsDistinct :=
  forall_within_iff

theorem textsDistinct_map_iff {entries : List (String × Claim)} :
    (Claim.map entries).TextsDistinct ↔ ∀ e ∈ entries, e.2.TextsDistinct := by
  rw [textsDistinct_iff_parts, parts, List.forall_mem_map]
  exact and_iff_right trivial

theorem setless_iff_parts {c : Claim} :
    c.Setless ↔ (∀ items, c ≠ .set items) ∧ ∀ x ∈ c.parts, x.Setless := by
  constructor
  · intro h
    exact ⟨fun items hc => h items (hc ▸ .self), fun x hx items hset => h items (.part hx hset)⟩
  · rintro ⟨hc, hparts⟩ items hset
    rcases within_iff.mp hset with hset | ⟨x, hx, hset⟩
    · exact hc items hset.symm
    · exact hparts x hx items hset

/-- A claim that is its own normal form is without sets. -/
theorem textsDistinct_of_normal_eq_self {c : Claim} (h : c.normal = c) : c.TextsDistinct := by
  intro x hx
  have hplain := normal_eq_self_iff.mp h x hx
  cases x with
  | set items => exact hplain.elim
  | _ => trivial

/-! ## Sets -/

/-- Sorting loses the order in which the items of a set came, where their texts tell them apart. -/
theorem byText_eq_of_perm {items items' : List Claim} (h : items.Perm items')
    (htexts : ∀ x ∈ items, ∀ y ∈ items, x.toText = y.toText → x = y) :
    byText items = byText items' := by
  have hperm : (byText items).Perm (byText items') :=
    (byText_perm items).trans (h.trans (byText_perm items').symm)
  refine hperm.eq_of_pairwise (fun x y hx hy hle hge => ?_) (byText_pairwise items)
    (byText_pairwise items')
  exact htexts x ((byText_perm items).mem_iff.mp hx) y
    (h.mem_iff.mpr ((byText_perm items').mem_iff.mp hy)) (String.le_antisymm hle hge)

theorem anyOversized_perm {items items' : List Claim} (h : items.Perm items') :
    anyOversized items = anyOversized items' := by
  have hiff : anyOversized items = false ↔ anyOversized items' = false := by
    simp only [anyOversized_eq_false_iff, h.mem_iff]
  rw [Bool.eq_iff_iff, ← not_iff_not, Bool.not_eq_true, Bool.not_eq_true, hiff]

theorem fault?_set (items : List Claim) :
    (Claim.set items).fault? = if anyOversized (byText items) then some .oversized
      else ((byText items).map fault?).findSome? id := by
  rw [fault?, keyedFaults_eq_map, anyOversized_perm (byText_perm items), byText, ← byKey_map,
    List.map_map]
  rfl

/-! ## Presentations -/

theorem map_eq_of_forall₂ {f : Claim → α} {items items' : List Claim}
    (h : List.Forall₂ Reordered items items')
    (hf : ∀ x ∈ items, ∀ x', x.Reordered x' → f x = f x') : items.map f = items'.map f := by
  induction h with
  | nil => rfl
  | cons hx _ ih =>
    rw [List.map_cons, List.map_cons, hf _ List.mem_cons_self _ hx,
      ih fun y hy => hf y (List.mem_cons_of_mem _ hy)]

/-- What is made of a claim from its parts, those of a set in the order of their texts, is the same
for every presentation. -/
theorem Reordered.congr {f : Claim → α}
    (hlist : ∀ items items', items.map f = items'.map f → f (.list items) = f (.list items'))
    (hset : ∀ items items', byText items = byText items' → f (.set items) = f (.set items'))
    (hmap : ∀ entries entries', entries.map (·.1) = entries'.map (·.1) →
      (entries.map (·.2)).map f = (entries'.map (·.2)).map f →
      f (.map entries) = f (.map entries'))
    {c c' : Claim} (h : c.Reordered c') (htexts : c.TextsDistinct) : f c = f c' := by
  induction c using induct generalizing c' with
  | step c ih =>
    have hparts : ∀ x ∈ c.parts, ∀ x', x.Reordered x' → f x = f x' :=
      fun x hx x' hx' => ih x hx hx' ((textsDistinct_iff_parts.mp htexts).2 x hx)
    cases h with
    | same => rfl
    | list hitems => exact hlist _ _ (map_eq_of_forall₂ hitems hparts)
    -- The items of a set are the same claims in either presentation, so only their order counts.
    | set hitems => exact hset _ _ (byText_eq_of_perm hitems (htexts _ .self))
    | map hkeys hvalues => exact hmap _ _ hkeys (map_eq_of_forall₂ hvalues hparts)

theorem writtenEntries_eq_zipWith (entries : List (String × Claim)) :
    writtenEntries entries = List.zipWith (fun key text => writtenText key ++ ':' :: ' ' :: text)
      (entries.map (·.1)) ((entries.map (·.2)).map written) := by
  induction entries with
  | nil => rfl
  | cons e es ih => rw [writtenEntries, ih]; rfl

theorem Reordered.written_eq {c c' : Claim} (h : c.Reordered c') (htexts : c.TextsDistinct) :
    c.written = c'.written := by
  refine h.congr (fun items items' hitems => ?_) (fun items items' hitems => ?_)
    (fun entries entries' hkeys hvalues => ?_) htexts
  · rw [written, written, writtenItems_eq_map, writtenItems_eq_map, hitems]
  · rw [written_set, written_set, hitems]
  · rw [written, written, writtenEntries_eq_zipWith, writtenEntries_eq_zipWith, hkeys, hvalues]

theorem itemsFault?_eq_findSome? (items : List Claim) :
    itemsFault? items = (items.map fault?).findSome? id := by
  induction items with
  | nil => rfl
  | cons x xs ih =>
    rw [itemsFault?, ih, List.map_cons, List.findSome?_cons]
    cases x.fault? <;> rfl

/-- What cannot be written of one presentation cannot of the other, and the first such thing is the
same. -/
theorem Reordered.fault?_eq {c c' : Claim} (h : c.Reordered c') (htexts : c.TextsDistinct) :
    c.fault? = c'.fault? := by
  refine h.congr (fun items items' hitems => ?_) (fun items items' hitems => ?_)
    (fun entries entries' _ hvalues => ?_) htexts
  · rw [fault?, fault?, itemsFault?_eq_findSome?, itemsFault?_eq_findSome?, hitems]
  · rw [fault?_set, fault?_set, hitems]
  · have hfaults := congrArg (List.findSome? id) hvalues
    simp only [List.findSome?_map] at hfaults
    rw [fault?, fault?, entriesFault?_eq_findSome?, entriesFault?_eq_findSome?]
    exact hfaults

/-- Without a set there is only one presentation. -/
theorem Reordered.eq_of_setless {c c' : Claim} (h : c.Reordered c') (hset : c.Setless) :
    c = c' := by
  induction c using induct generalizing c' with
  | step c ih =>
    have hparts : ∀ x ∈ c.parts, ∀ x', x.Reordered x' → id x = id x' :=
      fun x hx x' hx' => ih x hx hx' ((setless_iff_parts.mp hset).2 x hx)
    cases h with
    | same => rfl
    | list hitems => simpa using map_eq_of_forall₂ hitems hparts
    | set => exact absurd .self (hset _)
    | map hkeys hvalues =>
      have hsnd := map_eq_of_forall₂ hvalues hparts
      rw [List.map_id, List.map_id] at hsnd
      rw [List.zip_of_prod hkeys hsnd, ← List.zip_of_prod rfl rfl]

end Claim

/-! ## Claim maps -/

namespace Claims

/-- Two presentations of a claim map. -/
def Reordered (claims claims' : Claims) : Prop :=
  (Claim.map claims).Reordered (.map claims')

/-- The items of every set in a claim map, at whatever depth, are told apart by their texts. -/
def TextsDistinct (claims : Claims) : Prop :=
  (Claim.map claims).TextsDistinct

/-- Two presentations of a claim map are encoded alike, or fail alike. -/
theorem Reordered.encode_eq {claims claims' : Claims} (h : claims.Reordered claims')
    (htexts : claims.TextsDistinct) (field : String) :
    claims.encode field = claims'.encode field := by
  rw [Claims.encode_eq, Claims.encode_eq, Claim.Reordered.fault?_eq h htexts,
    Claim.Reordered.written_eq h htexts]

theorem reordered_iff {claims claims' : Claims} :
    claims.Reordered claims' ↔
      List.Forall₂ (fun e e' => e.1 = e'.1 ∧ e.2.Reordered e'.2) claims claims' := by
  constructor
  · intro h
    cases h with
    | same => exact List.forall₂_same.mpr fun e _ => ⟨rfl, .same e.2⟩
    | map hkeys hvalues =>
      rw [List.forall₂_map_left_iff, List.forall₂_map_right_iff] at hvalues
      induction hvalues with
      | nil => exact .nil
      | cons hvalue _ ih =>
        rw [List.map_cons, List.map_cons, List.cons.injEq] at hkeys
        exact .cons ⟨hkeys.1, hvalue⟩ (ih hkeys.2)
  · intro h
    refine .map ?_ ?_
    · induction h with
      | nil => rfl
      | cons hentry _ ih => rw [List.map_cons, List.map_cons, hentry.1, ih]
    · rw [List.forall₂_map_left_iff, List.forall₂_map_right_iff]
      exact h.imp fun _ _ hentry => hentry.2

theorem Reordered.append {a a' b b' : Claims} (ha : a.Reordered a') (hb : b.Reordered b') :
    Reordered (a ++ b) (a' ++ b') :=
  reordered_iff.mpr (List.rel_append (reordered_iff.mp ha) (reordered_iff.mp hb))

theorem Reordered.get? {claims claims' : Claims} (h : claims.Reordered claims') (key : String) :
    Option.Rel Claim.Reordered (claims.get? key) (claims'.get? key) := by
  have hentries := reordered_iff.mp h
  induction hentries with
  | nil => exact .none
  | cons hentry hrest ih =>
    rw [get?_cons, get?_cons, hentry.1]
    split
    · exact .some hentry.2
    · exact ih (reordered_iff.mpr hrest)

/-- A value without sets is the same in every presentation. -/
theorem Reordered.get?_eq_of_setless {claims claims' : Claims} (h : claims.Reordered claims')
    {key : String} (hset : ∀ value, claims.get? key = some value → value.Setless) :
    claims.get? key = claims'.get? key := by
  have hrel := h.get? key
  generalize claims.get? key = value at hrel hset ⊢
  generalize claims'.get? key = value' at hrel ⊢
  cases hrel with
  | none => rfl
  | some hvalue => rw [hvalue.eq_of_setless (hset _ rfl)]

end Claims
end GrantKeeper
