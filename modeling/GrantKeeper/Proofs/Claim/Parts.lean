/-
The parts of a claim: the items of a list or a set and the values of a map.

What holds of a claim as soon as it holds of its parts holds of every claim (`Claim.induct`), and
what is found in a claim at any depth is the claim itself or is found in a part (`within_iff`).
-/
import GrantKeeper.Claim.Basic

namespace GrantKeeper
namespace Claim

def parts : Claim → List Claim
  | .list items | .set items => items
  | .map entries => entries.map (·.2)
  | _ => []

theorem sizeOf_lt_of_mem_parts {c x : Claim} (h : x ∈ c.parts) : sizeOf x < sizeOf c := by
  cases c with
  | list items =>
    have hitem := List.sizeOf_lt_of_mem (show x ∈ items from h)
    simp only [list.sizeOf_spec]
    omega
  | set items =>
    have hitem := List.sizeOf_lt_of_mem (show x ∈ items from h)
    simp only [set.sizeOf_spec]
    omega
  | map entries =>
    obtain ⟨⟨key, y⟩, he, rfl⟩ := List.mem_map.mp (show x ∈ entries.map (·.2) from h)
    have hentry := List.sizeOf_lt_of_mem he
    simp only [Prod.mk.sizeOf_spec] at hentry
    simp only [map.sizeOf_spec]
    omega
  | _ => cases h

@[elab_as_elim]
theorem induct {P : Claim → Prop} (step : ∀ c, (∀ x ∈ c.parts, P x) → P c) (c : Claim) : P c :=
  step c fun x _hx => induct step x
termination_by sizeOf c
decreasing_by exact sizeOf_lt_of_mem_parts _hx

/-- A claim is found in another at some depth, which may be none. -/
inductive Within (x : Claim) : Claim → Prop
  | self : Within x x
  | part {c y : Claim} (hy : y ∈ c.parts) (h : Within x y) : Within x c

theorem within_iff {x c : Claim} : x.Within c ↔ x = c ∨ ∃ y ∈ c.parts, x.Within y := by
  constructor
  · intro h
    cases h with
    | self => exact Or.inl rfl
    | part hy h => exact Or.inr ⟨_, hy, h⟩
  · rintro (rfl | ⟨y, hy, h⟩)
    · exact .self
    · exact .part hy h

/-- What holds of all that is found in a claim holds of the claim and of all found in its parts. -/
theorem forall_within_iff {P : Claim → Prop} {c : Claim} :
    (∀ x, x.Within c → P x) ↔ P c ∧ ∀ y ∈ c.parts, ∀ x, x.Within y → P x := by
  constructor
  · intro h
    exact ⟨h c .self, fun y hy x hx => h x (.part hy hx)⟩
  · rintro ⟨hc, hparts⟩ x hx
    rcases within_iff.mp hx with rfl | ⟨y, hy, h⟩
    · exact hc
    · exact hparts y hy x h

/-- A property of claims that is some condition on a claim together with the same property of its
parts is that condition on all that is found in it. -/
theorem iff_forall_within {P Q : Claim → Prop} (h : ∀ c, P c ↔ Q c ∧ ∀ x ∈ c.parts, P x)
    (c : Claim) : P c ↔ ∀ x, x.Within c → Q x := by
  induction c using induct with
  | step c ih =>
    rw [h, forall_within_iff]
    exact and_congr_right fun _ => forall₂_congr ih

end Claim
end GrantKeeper
