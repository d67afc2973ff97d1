/-
Integers as floating-point numbers of 64 bits.

An integer below 2^53 is such a number itself (`units?_ofInt_of_lt`), and a larger one is rounded to
an integer that is not below 2^52, or beyond all finite numbers (`units?_ofInt_of_le`).  Its decimal
text is read as the same number (`ofText?_decimalInt`).
-/
import GrantKeeper.Proofs.Number.Reader
import GrantKeeper.Proofs.Number.Rounding

namespace GrantKeeper

open Text

namespace Binary64

/-! ## Rounding -/

/-- A significand of 53 bits stands at a place of its power of two. -/
theorem unitsAt_significand {m s : Nat} (hlow : binade ≤ m) (hhigh : m < 2 * binade) :
    unitsAt (s * binade + m) = m * 2 ^ s := by
  have hpos : 0 < binade := by decide
  have hplace : s * binade + m = (m - binade) + (s + 1) * binade := by
    rw [Nat.succ_mul]
    omega
  have hmod : (s * binade + m) % binade = m - binade := by
    rw [hplace, Nat.add_mul_mod_self_right, Nat.mod_eq_of_lt (by omega)]
  have hdiv : (s * binade + m) / binade = s + 1 := by
    rw [hplace, Nat.add_mul_div_right _ _ hpos, Nat.div_eq_of_lt (by omega), Nat.zero_add]
  rw [unitsAt_of_le (Nat.le_trans hlow (Nat.le_add_left m _)), hmod, hdiv, Nat.add_sub_cancel' hlow,
    Nat.add_sub_cancel]

/-- A positive whole number below 2^53, shifted left, is a significand of 53 bits. -/
theorem exists_shift {k : Nat} (hpos : 0 < k) (h : k < 2 ^ 53) :
    ∃ s ≤ 52, binade ≤ k * 2 ^ s ∧ k * 2 ^ s < 2 * binade := by
  have hlog : k.log2 < 53 := (Nat.log2_lt hpos.ne').mpr h
  have hbinade : 2 ^ k.log2 * 2 ^ (52 - k.log2) = binade := by
    rw [← Nat.pow_add, Nat.add_sub_cancel' (by omega)]
    rfl
  refine ⟨52 - k.log2, Nat.sub_le _ _, ?_, ?_⟩
  · calc binade = 2 ^ k.log2 * 2 ^ (52 - k.log2) := hbinade.symm
      _ ≤ k * 2 ^ (52 - k.log2) := Nat.mul_le_mul_right _ (Nat.log2_self_le hpos.ne')
  · calc k * 2 ^ (52 - k.log2) < 2 ^ (k.log2 + 1) * 2 ^ (52 - k.log2) :=
          (Nat.mul_lt_mul_right (Nat.two_pow_pos _)).mpr Nat.lt_log2_self
      _ = 2 * (2 ^ k.log2 * 2 ^ (52 - k.log2)) := by
          rw [Nat.pow_succ, Nat.mul_comm (2 ^ k.log2) 2, Nat.mul_assoc]
      _ = 2 * binade := by rw [hbinade]

/-- A whole number below 2^53 is a magnitude. -/
theorem exists_unitsAt_eq {k : Nat} (h : k < 2 ^ 53) :
    ∃ place, place < places ∧ unitsAt place = k * one := by
  rcases Nat.eq_zero_or_pos k with rfl | hpos
  · refine ⟨0, by decide, ?_⟩
    rw [Nat.zero_mul]
    decide
  · obtain ⟨s, hs, hlow, hhigh⟩ := exists_shift hpos h
    refine ⟨(1074 - s) * binade + k * 2 ^ s, ?_, ?_⟩
    · have hlast : places = 2047 * binade := rfl
      have hscale : (1074 - s) * binade ≤ 1074 * binade :=
        Nat.mul_le_mul_right binade (Nat.sub_le _ _)
      omega
    · have hone : s + (1074 - s) = oneExponent := Nat.add_sub_cancel' (by omega)
      rw [unitsAt_significand hlow hhigh, Nat.mul_assoc, ← Nat.pow_add, hone, ← one_eq]

theorem ofUnits_unitsAt (negative : Bool) {place : Nat} (h : place < places) :
    ofUnits negative (unitsAt place) 1 = .finite negative ⟨place, h⟩ := by
  have hnearest : nearestPlace (unitsAt place) 1 = place := by
    simpa using nearestPlace_unitsAt place Nat.one_pos
  unfold ofUnits
  split
  · next hlt => exact congrArg _ (Fin.ext hnearest)
  · next hlarge =>
    rw [hnearest] at hlarge
    exact absurd h hlarge

theorem units?_ofInt_of_lt {n : Int} (h : n.natAbs < 2 ^ 53) :
    (ofInt n).units? = some (n * (one : Int)) := by
  obtain ⟨place, hplace, hunits⟩ := exists_unitsAt_eq h
  rw [ofInt, ofIntRatio, ofRatio, ← hunits, ofUnits_unitsAt _ hplace, units?]
  dsimp only
  rw [hunits, Nat.cast_mul]
  congr 1
  by_cases hneg : n < 0
  · rw [decide_eq_true hneg, if_pos rfl, ← Int.neg_mul, Int.ofNat_natAbs_of_nonpos hneg.le,
      Int.neg_neg]
  · rw [decide_eq_false hneg, if_neg Bool.false_ne_true, Int.natAbs_of_nonneg (by omega)]

/-- From 2^52 times one on all magnitudes are whole numbers. -/
theorem exists_unitsAt_of_le {place : Nat} (h : 1075 * binade ≤ place) :
    ∃ k, 2 ^ 52 ≤ k ∧ unitsAt place = k * one := by
  have hquotient : 1075 ≤ place / binade := (Nat.le_div_iff_mul_le (by decide)).mpr h
  have hscale : place / binade - 1 = place / binade - 1075 + oneExponent := by
    unfold oneExponent
    omega
  refine ⟨(binade + place % binade) * 2 ^ (place / binade - 1075), ?_, ?_⟩
  · exact Nat.le_trans (Nat.le_add_right binade _) (Nat.le_mul_of_pos_right _ (Nat.two_pow_pos _))
  · rw [unitsAt_of_le (by omega), hscale, Nat.pow_add, ← one_eq, Nat.mul_assoc]

theorem units?_ofInt_of_le {n : Int} (h : 2 ^ 53 ≤ n.natAbs) :
    (ofInt n).units? = none ∨
      ∃ k : Int, 2 ^ 52 ≤ k.natAbs ∧ (ofInt n).units? = some (k * (one : Int)) := by
  -- One binade of slack is left for the rounding, so the number found is only known from 2^52 on.
  have hplace : 1075 * binade ≤ nearestPlace (n.natAbs * one) 1 := by
    refine le_nearestPlace Nat.one_pos ?_
    have hsum : 52 + 1075 = 53 + oneExponent := rfl
    rw [hsum, Nat.pow_add, ← one_eq, Nat.mul_one]
    exact Nat.mul_le_mul_right one h
  obtain ⟨k, hk, hunits⟩ := exists_unitsAt_of_le hplace
  rw [ofInt, ofIntRatio, ofRatio, ofUnits]
  split
  · right
    refine ⟨if decide (n < 0) then -(k : Int) else k, ?_, ?_⟩
    · split
      · rwa [Int.natAbs_neg, Int.natAbs_natCast]
      · rwa [Int.natAbs_natCast]
    · rw [units?]
      dsimp only
      rw [hunits, Nat.cast_mul]
      split
      · rw [Int.neg_mul]
      · rfl
  · exact .inl rfl

/-- A number that is whole is cut to itself. -/
theorem truncate?_of_units? {x : Binary64} {n : Int} (h : x.units? = some (n * (one : Int))) :
    x.truncate? = some n := by
  have hone : (one : Int) ≠ 0 := Int.natCast_ne_zero.mpr one_pos.ne'
  rw [truncate?, h, Option.map_some, Int.mul_tdiv_cancel _ hone]

theorem ofIntRatio_mul (n : Int) {k : Nat} (hk : 0 < k) :
    ofIntRatio (n * (k : Int)) k = ofInt n := by
  have hsign : n * (k : Int) < 0 ↔ n < 0 := by
    simpa using Int.mul_lt_mul_right (b := n) (c := 0) (Int.natCast_pos.mpr hk)
  have hscaled : ofRatio (decide (n < 0)) (n.natAbs * k) k =
      ofRatio (decide (n < 0)) n.natAbs 1 :=
    ofRatio_congr _ hk Nat.one_pos (Nat.mul_one _)
  rw [ofInt, ofIntRatio, ofIntRatio, Int.natAbs_mul, Int.natAbs_natCast, decide_eq_decide.mpr hsign,
    hscaled]

/-! ## Decimal text -/

/-- The text of an integer is read as the number nearest to it. -/
theorem ofText?_decimalInt (n : Int) :
    ofText? (String.ofList (decimalInt n)) = some (ofInt n) := by
  rw [decimalInt_eq, ofText?_signed (decimal_ne_nil _) fun _ => isDigit_of_mem_decimal,
    natOfDigits_decimal, ofDecimal_eq_ofRatio]
  show some (ofRatio (decide (n < 0)) (n.natAbs * 10 ^ 0) (10 ^ 0)) = _
  rw [Nat.pow_zero, Nat.mul_one]
  rfl

end Binary64
end GrantKeeper
