/-
The normal form of a claim, kind by kind and at every depth.

`Normalizes` says what the normal form is: a timestamp becomes its text, a set the list of its items
in the order of their texts, and everything else stays, with its parts in normal form.  What is
found in a normal form is the normal form of something found in the claim (`exists_within_normal`),
so a condition on all that is found in a claim carries over as soon as it does for a single step.
A claim is its own normal form if no timestamp and no set is found in it (`normal_eq_self_iff`).
-/
import GrantKeeper.Proofs.Claim.Keys
import GrantKeeper.Proofs.Claim.Writable

namespace GrantKeeper

open Json

namespace Claim

/-! ## The order of a set -/

/-- The items of a set in the order of their texts, those of one text in the order they came. -/
def byText (items : List Claim) : List Claim :=
  byKey (items.map fun x => (x.toText, x))

theorem byText_perm (items : List Claim) : (byText items).Perm items := by
  have hperm := perm_byKey (items.map fun x => (x.toText, x))
  rwa [List.map_map, show ((·.2) ∘ fun x : Claim => (x.toText, x)) = id from rfl, List.map_id]
    at hperm

theorem normal_set (items : List Claim) :
    (Claim.set items).normal = .list ((byText items).map normal) := by
  rw [normal, keyedNormals_eq_map, byText, ← byKey_map, List.map_map]
  rfl

theorem written_set (items : List Claim) :
    (Claim.set items).written = '[' :: commaJoined ((byText items).map written) ++ [']'] := by
  rw [written, keyedItems_eq_map, byText, ← byKey_map, List.map_map]
  rfl

/-- The order of texts, as the order by which a set is sorted. -/
def textLe (x y : Claim) : Bool :=
  decide (x.toText ≤ y.toText)

theorem textLe_trans (x y z : Claim) (hxy : textLe x y = true) (hyz : textLe y z = true) :
    textLe x z = true := by
  unfold textLe at *
  rw [decide_eq_true_iff] at *
  exact String.le_trans hxy hyz

theorem textLe_total (x y : Claim) : (textLe x y || textLe y x) = true := by
  unfold textLe
  rw [Bool.or_eq_true, decide_eq_true_iff, decide_eq_true_iff]
  exact String.le_total _ _

theorem byText_eq_mergeSort (items : List Claim) : byText items = items.mergeSort textLe := by
  have hsorted := List.map_mergeSort (r := textLe)
    (s := fun a b : String × Claim => decide (a.1 ≤ b.1)) (f := fun x => (x.toText, x)) (l := items)
    fun _ _ _ _ => rfl
  rw [byText, byKey, ← hsorted, List.map_map]
  exact List.map_id _

theorem byText_pairwise (items : List Claim) :
    (byText items).Pairwise fun x y => x.toText ≤ y.toText := by
  rw [byText_eq_mergeSort]
  exact (List.pairwise_mergeSort textLe_trans textLe_total items).imp of_decide_eq_true

/-- Sorting does not change the order of items with one text. -/
theorem filter_byText (items : List Claim) (text : String) :
    (byText items).filter (·.toText == text) = items.filter (·.toText == text) := by
  have hequal : (items.filter (·.toText == text)).Pairwise fun x y => textLe x y = true := by
    refine List.pairwise_of_forall_mem_list fun x hx y hy => ?_
    have hxtext := eq_of_beq (List.mem_filter.mp hx).2
    have hytext := eq_of_beq (List.mem_filter.mp hy).2
    rw [textLe, hxtext, hytext]
    exact decide_eq_true (String.le_refl text)
  -- Sorting is stable: what is in order before it stays a part of the list as it stands.
  have hsub : (items.filter (·.toText == text)).Sublist (byText items) := by
    rw [byText_eq_mergeSort]
    exact List.sublist_mergeSort textLe_trans textLe_total hequal List.filter_sublist
  have hfilter := hsub.filter (·.toText == text)
  simp only [List.filter_filter, Bool.and_self] at hfilter
  exact (hfilter.eq_of_length ((byText_perm items).filter _).length_eq.symm).symm

/-! ## The normal form, kind by kind -/

/-- What it takes to bring claims to their normal form. -/
structure Normalizes (norm : Claim → Claim) : Prop where
  null : norm .null = .null
  bool : ∀ b, norm (.bool b) = .bool b
  int : ∀ n, norm (.int n) = .int n
  real : ∀ x, norm (.real x) = .real x
  text : ∀ s, norm (.text s) = .text s
  time : ∀ t, norm (.time t) = .text t.isoText
  list : ∀ items, norm (.list items) = .list (items.map norm)
  set : ∀ items, ∃ ordered : List Claim, ordered.Perm items ∧
    ordered.Pairwise (fun x y => x.toText ≤ y.toText) ∧
    (∀ text, ordered.filter (·.toText == text) = items.filter (·.toText == text)) ∧
    norm (.set items) = .list (ordered.map norm)
  map : ∀ entries, norm (.map entries) = .map (entries.map fun (key, x) => (key, norm x))

theorem normalizes_normal : Normalizes normal where
  null := rfl
  bool _ := rfl
  int _ := rfl
  real _ := rfl
  text _ := rfl
  time _ := rfl
  list items := by rw [normal, normalItems_eq_map]
  set items := ⟨byText items, byText_perm items, byText_pairwise items, filter_byText items,
    normal_set items⟩
  map entries := by rw [normal, normalEntries_eq_map]

/-! ## At every depth -/

theorem mem_parts_normal {x c : Claim} : x ∈ c.normal.parts ↔ ∃ y ∈ c.parts, y.normal = x := by
  cases c with
  | list items =>
    rw [normalizes_normal.list]
    exact List.mem_map
  | set items =>
    rw [normal_set]
    show x ∈ (byText items).map normal ↔ ∃ y ∈ items, y.normal = x
    rw [List.mem_map]
    exact exists_congr fun y => and_congr_left fun _ => (byText_perm items).mem_iff
  | map entries =>
    rw [normalizes_normal.map, parts, parts, List.map_map]
    simp only [List.mem_map, Function.comp_apply, exists_exists_and_eq_and]
  | _ => simp [normal, parts]

/-- What is found in a normal form is the normal form of something in the claim. -/
theorem exists_within_normal {x c : Claim} :
    x.Within c.normal → ∃ y : Claim, y.Within c ∧ y.normal = x := by
  induction c using induct with
  | step c ih =>
    intro h
    rcases within_iff.mp h with rfl | ⟨part, hpart, h⟩
    · exact ⟨c, .self, rfl⟩
    · obtain ⟨y, hy, rfl⟩ := mem_parts_normal.mp hpart
      obtain ⟨z, hz, rfl⟩ := ih y hy h
      exact ⟨z, .part hy hz, rfl⟩

/-- A condition that a claim passes on to its normal form is passed on at every depth. -/
theorem forall_within_normal {P : Claim → Prop} (hP : ∀ c, P c → P c.normal) {c : Claim}
    (h : ∀ x : Claim, x.Within c → P x) : ∀ x : Claim, x.Within c.normal → P x := by
  intro x hx
  obtain ⟨y, hy, rfl⟩ := exists_within_normal hx
  exact hP y (h y hy)

theorem Encodable.normal {c : Claim} (h : c.Encodable) : c.normal.Encodable := by
  cases c <;> exact h

theorem fault?_normal {c : Claim} (h : c.fault? = none) : c.normal.fault? = none :=
  fault?_eq_none_iff.mpr
    (forall_within_normal (P := Encodable) (fun _ => .normal) (fault?_eq_none_iff.mp h))

theorem KeysNodup.normal {c : Claim} (h : c.KeysNodup) : c.normal.KeysNodup := by
  cases c with
  | map entries =>
    show ((normalEntries entries).map (·.1)).Nodup
    exact (Claims.keys_normal entries).symm ▸ h
  | _ => exact trivial

theorem keysOnce_normal {c : Claim} (h : c.keysOnce = true) : c.normal.keysOnce = true :=
  keysOnce_iff_within.mpr
    (forall_within_normal (P := KeysNodup) (fun _ => .normal) (keysOnce_iff_within.mp h))

/-! ## Claims that are their own normal form -/

/-- Neither a timestamp nor a set. -/
def Plain : Claim → Prop
  | .time _ | .set _ => False
  | _ => True

theorem plain_normal (c : Claim) : c.normal.Plain := by
  cases c <;> exact trivial

theorem normal_eq_self {c : Claim} : (∀ x : Claim, x.Within c → x.Plain) → c.normal = c := by
  induction c using induct with
  | step c ih =>
    intro h
    rw [forall_within_iff] at h
    have hparts : ∀ x ∈ c.parts, x.normal = x := fun x hx => ih x hx (h.2 x hx)
    cases c with
    | time t => exact h.1.elim
    | set items => exact h.1.elim
    | list items =>
      have hitems : items.map normal = items.map id := List.map_congr_left hparts
      rw [normalizes_normal.list, hitems, List.map_id]
    | map entries =>
      have hentries : entries.map (fun (key, x) => (key, x.normal)) = entries.map id :=
        List.map_congr_left fun e he =>
          Prod.ext rfl (hparts e.2 (List.mem_map_of_mem he))
      rw [normalizes_normal.map, hentries, List.map_id]
    | _ => rfl

theorem normal_eq_self_iff {c : Claim} :
    c.normal = c ↔ ∀ x : Claim, x.Within c → x.Plain := by
  refine ⟨fun h x hx => ?_, normal_eq_self⟩
  rw [← h] at hx
  obtain ⟨y, _, rfl⟩ := exists_within_normal hx
  exact plain_normal y

theorem normal_normal (c : Claim) : c.normal.normal = c.normal := by
  refine normal_eq_self fun x hx => ?_
  obtain ⟨y, _, rfl⟩ := exists_within_normal hx
  exact plain_normal y

end Claim

theorem Claims.normal_normal (claims : Claims) : claims.normal.normal = claims.normal :=
  Claim.map.inj (Claim.normal_normal (.map claims))

theorem Claims.keysOnce_normal {claims : Claims} (h : claims.keysOnce = true) :
    claims.normal.keysOnce = true :=
  Claim.keysOnce_normal (c := .map claims) h

end GrantKeeper
