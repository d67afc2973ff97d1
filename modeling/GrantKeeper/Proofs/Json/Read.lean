/-
What text holds.

Reading gives nulls, booleans, integers that are not too long, floating-point numbers, texts, lists
and maps, and in each map every key once (`ofText_parse`).  Such claims are their own normal form
and can be written.
-/
import GrantKeeper.Json.Reader
import GrantKeeper.Proofs.Claim.Normal
import GrantKeeper.Proofs.Outcome

namespace GrantKeeper
namespace Claim

/-- A claim that text can hold if its parts can stand in text. -/
def Readable : Claim → Prop
  | .int n => oversized n = false
  | .map entries => (entries.map (·.1)).Nodup
  | .time _ | .binary _ | .handle | .set _ => False
  | _ => True

/-- A claim that text can hold. -/
def OfText (c : Claim) : Prop :=
  ∀ x : Claim, x.Within c → x.Readable

theorem ofText_iff {c : Claim} : c.OfText ↔ c.Readable ∧ ∀ x ∈ c.parts, x.OfText :=
  forall_within_iff

theorem Readable.ofText {c : Claim} (h : c.Readable) (hparts : c.parts = []) : c.OfText :=
  ofText_iff.mpr ⟨h, fun x hx => by
    rw [hparts] at hx
    cases hx⟩

theorem ofText_list {items : List Claim} (h : ∀ x ∈ items, x.OfText) : (list items).OfText :=
  ofText_iff.mpr ⟨trivial, h⟩

theorem ofText_map {entries : List (String × Claim)} (h : ∀ e ∈ entries, e.2.OfText) :
    (map (Claims.ofEntries entries)).OfText :=
  ofText_iff.mpr ⟨Claims.nodup_keys_ofEntries entries,
    List.forall_mem_map.mpr fun e he => h e (Claims.mem_of_mem_ofEntries e he)⟩

theorem OfText.normal_eq {c : Claim} (h : c.OfText) : c.normal = c :=
  normal_eq_self fun x hx => by
    have hread := h x hx
    cases x <;> first | exact trivial | exact hread

theorem OfText.fault?_eq_none {c : Claim} (h : c.OfText) : c.fault? = none :=
  fault?_eq_none_iff.mpr fun x hx => by
    have hread := h x hx
    cases x with
    | int n => exact oversized_eq_false_iff.mp hread
    | binary data => exact hread
    | handle => exact hread
    | _ => exact trivial

theorem OfText.keysOnce_eq {c : Claim} (h : c.OfText) : c.keysOnce = true :=
  keysOnce_iff_within.mpr fun x hx => by
    have hread := h x hx
    cases x with
    | map entries => exact hread
    | _ => exact trivial

end Claim

namespace Json

open Claim

/-! ## Values without parts -/

theorem oversized_neg (n : Int) : oversized (-n) = oversized n := by
  rw [oversized, oversized, Int.natAbs_neg]

theorem ofText_number {cs rest : List Char} {c : Claim} (h : number cs = .ok (c, rest)) :
    c.OfText := by
  unfold number at h
  dsimp only at h
  generalize (cs.head? == some '-') = negative at h
  generalize (if negative = true then cs.tail else cs) = body at h
  split at h
  · cases h
  · split at h
    · split at h
      · cases h
      · next hsize =>
        cases h
        refine Readable.ofText ?_ rfl
        show oversized (if negative = true then _ else _) = false
        rw [Bool.not_eq_true] at hsize
        split
        · exact (oversized_neg _).trans hsize
        · exact hsize
    · cases h
      exact Readable.ofText trivial rfl

theorem ofText_of_mem_words {entry : String × Claim} (h : entry ∈ words) : entry.2.OfText := by
  simp only [words, List.mem_cons, List.not_mem_nil, or_false] at h
  rcases h with rfl | rfl | rfl | rfl | rfl | rfl <;> exact Readable.ofText trivial rfl

theorem ofText_scalar {cs rest : List Char} {c : Claim} (h : scalar cs = .ok (c, rest)) :
    c.OfText := by
  unfold scalar at h
  split at h
  · next found hfound =>
    cases h
    obtain ⟨entry, hentry, hafter⟩ := List.exists_of_findSome?_eq_some hfound
    obtain ⟨_, _, heq⟩ := Option.map_eq_some_iff.mp hafter
    cases heq
    exact ofText_of_mem_words hentry
  · exact ofText_number h

/-! ## Nested values -/

/-- What a value, items and entries hold when they are read with some fuel. -/
structure ReadsOfText (fuel : Nat) : Prop where
  value : ∀ {cs c rest}, value fuel cs = .ok (c, rest) → c.OfText
  items : ∀ {cs xs rest}, items fuel cs = .ok (xs, rest) → ∀ x ∈ xs, x.OfText
  entries : ∀ {cs es rest}, entries fuel cs = .ok (es, rest) → ∀ e ∈ es, e.2.OfText

theorem ofText_value_succ {fuel : Nat} (ih : ReadsOfText fuel) {cs rest : List Char} {c : Claim}
    (h : value (fuel + 1) cs = .ok (c, rest)) : c.OfText := by
  cases cs with
  | nil => cases h
  | cons first cs =>
    rw [value] at h
    split at h
    · obtain ⟨⟨s, after⟩, _, heq⟩ := Except.map_eq_ok h
      cases heq
      exact Readable.ofText trivial rfl
    · split at h
      · dsimp only at h
        split at h
        · cases h
          exact ofText_list fun x hx => by cases hx
        · obtain ⟨⟨xs, after⟩, hitems, heq⟩ := Except.map_eq_ok h
          cases heq
          exact ofText_list (ih.items hitems)
      · split at h
        · dsimp only at h
          split at h
          · cases h
            exact Readable.ofText List.nodup_nil rfl
          · obtain ⟨⟨es, after⟩, hentries, heq⟩ := Except.map_eq_ok h
            cases heq
            exact ofText_map (ih.entries hentries)
        · exact ofText_scalar h

theorem ofText_items_succ {fuel : Nat} (ih : ReadsOfText fuel) {cs rest : List Char}
    {xs : List Claim} (h : items (fuel + 1) cs = .ok (xs, rest)) : ∀ x ∈ xs, x.OfText := by
  rw [items] at h
  obtain ⟨⟨x, after⟩, hvalue, h⟩ := Except.bind_eq_ok h
  have hx := ih.value hvalue
  dsimp only at h
  split at h
  · cases h
    exact List.forall_mem_singleton.mpr hx
  · obtain ⟨⟨xs, after⟩, hitems, h⟩ := Except.bind_eq_ok h
    cases h
    exact List.forall_mem_cons.mpr ⟨hx, ih.items hitems⟩
  · cases h

theorem ofText_entries_succ {fuel : Nat} (ih : ReadsOfText fuel) {cs rest : List Char}
    {es : List (String × Claim)} (h : entries (fuel + 1) cs = .ok (es, rest)) :
    ∀ e ∈ es, e.2.OfText := by
  rw [entries] at h
  obtain ⟨⟨name, after⟩, _, h⟩ := Except.bind_eq_ok h
  obtain ⟨⟨x, after⟩, hvalue, h⟩ := Except.bind_eq_ok h
  have hx := ih.value hvalue
  dsimp only at h
  split at h
  · cases h
    exact List.forall_mem_singleton.mpr hx
  · obtain ⟨⟨es, after⟩, hentries, h⟩ := Except.bind_eq_ok h
    cases h
    exact List.forall_mem_cons.mpr ⟨hx, ih.entries hentries⟩
  · cases h

theorem readsOfText (fuel : Nat) : ReadsOfText fuel := by
  -- Values, items and entries read each other with less fuel, so all three go by one induction.
  induction fuel with
  | zero =>
    refine ⟨fun h => ?_, fun h => ?_, fun h => ?_⟩
    · rw [value] at h
      cases h
    · cases h
    · cases h
  | succ fuel ih =>
    exact ⟨ofText_value_succ ih, ofText_items_succ ih, ofText_entries_succ ih⟩

/-- A text that is read holds a claim that text can hold. -/
theorem ofText_parse {s : String} {c : Claim} (h : parse s = .ok c) : c.OfText := by
  unfold parse at h
  split at h
  · cases h
  · obtain ⟨⟨x, rest⟩, hvalue, h⟩ := Except.bind_eq_ok h
    dsimp only at h
    split at h
    · cases h
      exact (readsOfText _).value hvalue
    · cases h

end Json
end GrantKeeper
