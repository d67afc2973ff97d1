/-
The digits that are chosen for a floating-point number read back as that number.

Each candidate is tried before it is taken, and the last one is exact, so no bound on the count of
digits is needed: `ofDecimal_shortest` follows from what was tried and from
`readsBack_exactDecimal`.
-/
import GrantKeeper.Proofs.Number.Rounding

namespace GrantKeeper
namespace Binary64

/-- What reads back without a sign reads back with either. -/
theorem ofDecimal_of_readsBack {place : Nat} {d : Decimal} (hp : place < 0x7FF0000000000000)
    (h : readsBack place d = true) (negative : Bool) :
    ofDecimal negative d = .finite negative ⟨place, hp⟩ := by
  unfold readsBack at h
  rw [ofDecimal_eq_ofRatio, ofRatio, ofUnits] at h ⊢
  split at h
  · next p heq =>
    split at heq
    · next hlt =>
      injection heq with _ hplace
      have hval : nearestPlace (d.digits * 10 ^ d.exponent.toNat * one)
          (10 ^ (-d.exponent).toNat) = place := by
        rw [← hplace] at h
        simpa using h
      rw [dif_pos hlt]
      congr 2
    · cases heq
  · cases h

theorem readsBack_exactDecimal {place : Nat} (hp : place < 0x7FF0000000000000) :
    readsBack place (exactDecimal place) = true := by
  have hexact : exactDecimal place = ⟨unitsAt place * 5 ^ oneExponent, -1074⟩ := by
    rw [exactDecimal, Nat.pow_eq, oneExponent]
  have hneg : (-1074 : Int).toNat = 0 := rfl
  have hden : (- -1074 : Int).toNat = oneExponent := rfl
  have hten : 5 * 2 = 10 := rfl
  have hquot : unitsAt place * 5 ^ oneExponent * one = unitsAt place * 10 ^ oneExponent := by
    rw [one_eq, Nat.mul_assoc, ← Nat.mul_pow, hten]
  have hplace : nearestPlace (unitsAt place * 10 ^ oneExponent) (10 ^ oneExponent) = place :=
    nearestPlace_unitsAt place (Nat.pow_pos (by decide))
  have hread : ofDecimal false (exactDecimal place) = .finite false ⟨place, hp⟩ := by
    rw [hexact, ofDecimal_eq_ofRatio, ofRatio, ofUnits]
    dsimp -zeta only
    rw [hneg, hden, Nat.pow_zero, Nat.mul_one, hquot, dif_pos (hplace.symm ▸ hp)]
    congr 2
  rw [readsBack, hread]
  exact beq_self_eq_true place

theorem readsBack_of_neighbour? {place count : Nat} {d : Decimal}
    (h : neighbour? place count = some d) : readsBack place d = true := by
  unfold neighbour? at h
  extract_lets units exponent num den low high at h
  split at h
  · exact List.find?_some h
  · exact List.find?_some h

theorem readsBack_shortest {place : Nat} (hp : place < 0x7FF0000000000000) :
    readsBack place (shortest place) = true := by
  rw [shortest]
  cases hfound : (List.range 17).findSome? fun k => neighbour? place (k + 1) with
  | none => exact readsBack_exactDecimal hp
  | some d =>
    obtain ⟨k, _, hk⟩ := List.exists_of_findSome?_eq_some hfound
    exact readsBack_of_neighbour? hk

/-- The digits chosen for a place read back as the number there. -/
theorem ofDecimal_shortest (negative : Bool) {place : Nat} (hp : place < 0x7FF0000000000000) :
    ofDecimal negative (shortest place) = .finite negative ⟨place, hp⟩ :=
  ofDecimal_of_readsBack hp (readsBack_shortest hp) negative

theorem digits_shortest_ne_zero {place : Nat} (hp : place < 0x7FF0000000000000) (hne : place ≠ 0) :
    (shortest place).digits ≠ 0 := by
  intro hz
  have hread := ofDecimal_shortest false hp
  rw [ofDecimal, if_pos hz] at hread
  injection hread with _ hplace
  exact hne (congrArg Fin.val hplace).symm

end Binary64
end GrantKeeper
