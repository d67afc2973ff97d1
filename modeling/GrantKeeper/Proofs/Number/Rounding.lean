/-
Rounding to floating-point numbers of 64 bits, and what of a decimal it depends on.

A quotient is rounded by its value alone (`nearestPlace_mul`), the magnitude at a place is its own
rounding (`nearestPlace_unitsAt`), and a decimal is read by its value alone (`ofDecimal_shift`): the
answers given without computing a power are those that the power would give
(`ofDecimal_eq_ofRatio`).
-/
import GrantKeeper.Number.Shortest
import Mathlib.Tactic.Ring

namespace GrantKeeper

/-! ## Quotients -/

theorem roundHalfEven_mul {num den k : Nat} (hk : 0 < k) :
    roundHalfEven (num * k) (den * k) = roundHalfEven num den := by
  have hmod : num * k % (den * k) = num % den * k := Nat.mul_mod_mul_right k num den
  have hlow : 2 * (num % den * k) < den * k ↔ 2 * (num % den) < den := by
    rw [← Nat.mul_assoc]
    exact Nat.mul_lt_mul_right hk
  have hhigh : den * k < 2 * (num % den * k) ↔ den < 2 * (num % den) := by
    rw [← Nat.mul_assoc]
    exact Nat.mul_lt_mul_right hk
  simp only [roundHalfEven, Nat.mul_div_mul_right num den hk, hmod, hlow, hhigh]

theorem roundHalfEven_exact (q : Nat) {den : Nat} (hd : 0 < den) :
    roundHalfEven (q * den) den = q := by
  simp [roundHalfEven, Nat.mul_div_cancel q hd, hd]

theorem roundHalfEven_small {num den : Nat} (h : 2 * num < den) : roundHalfEven num den = 0 := by
  have hlt : num < den := by omega
  simp [roundHalfEven, Nat.div_eq_of_lt hlt, Nat.mod_eq_of_lt hlt, h]

/-! ## Places -/

namespace Binary64

/-- The power of two that is one, counted in units. -/
def oneExponent : Nat := 1074

theorem one_eq : one = 2 ^ oneExponent := by
  unfold one oneExponent
  exact Nat.pow_eq

theorem one_pos : 0 < one := by
  rw [one_eq]
  exact Nat.two_pow_pos oneExponent

theorem nearestPlace_mul {num den k : Nat} (hk : 0 < k) :
    nearestPlace (num * k) (den * k) = nearestPlace num den := by
  simp only [nearestPlace, Nat.mul_div_mul_right num den hk, Nat.mul_right_comm den k,
    roundHalfEven_mul hk]

theorem nearestPlace_small {num den : Nat} (h : 2 * num < den) : nearestPlace num den = 0 := by
  have hq : num / den = 0 := Nat.div_eq_of_lt (by omega)
  simp [nearestPlace, hq, roundHalfEven_small h]

/-- The place of a magnitude of `2^(52 + s)` units or more is at least the first one of its power of
two. -/
theorem le_nearestPlace {num den s : Nat} (hd : 0 < den) (h : 2 ^ (52 + s) * den ≤ num) :
    s * binade ≤ nearestPlace num den := by
  have hq : 2 ^ (52 + s) ≤ num / den := (Nat.le_div_iff_mul_le hd).mpr h
  have hne : num / den ≠ 0 := by
    have := Nat.two_pow_pos (52 + s)
    omega
  have hlog : 52 + s ≤ (num / den).log2 := (Nat.le_log2 hne).mpr hq
  have hs : s * binade ≤ ((num / den).log2 - 52) * binade := Nat.mul_le_mul_right _ (by omega)
  exact Nat.le_trans hs (Nat.le_add_left _ _)

theorem roundHalfEven_le (num den : Nat) : roundHalfEven num den ≤ num / den + 1 := by
  unfold roundHalfEven
  dsimp only
  split
  · omega
  · split <;> omega

/-- The place of a magnitude below `2^(53 + s)` units is at most the first one of the next power of
two. -/
theorem nearestPlace_le {num den s : Nat} (h : num / den < 2 ^ (53 + s)) :
    nearestPlace num den ≤ (2 + s) * binade := by
  have hb : 2 ^ 53 = 2 * binade := rfl
  have hpower : ((num / den).log2 - 52) ≤ s ∧
      num / den < 2 ^ 53 * 2 ^ ((num / den).log2 - 52) := by
    rw [← Nat.pow_add]
    by_cases hzero : num / den = 0
    · rw [hzero]
      exact ⟨Nat.zero_le s, Nat.two_pow_pos _⟩
    · have hlog : (num / den).log2 < 53 + s := (Nat.log2_lt hzero).mpr h
      exact ⟨by omega, (Nat.log2_lt hzero).mp (by omega)⟩
  obtain ⟨hscale, hlt⟩ := hpower
  have hq : num / (den * 2 ^ ((num / den).log2 - 52)) < 2 ^ 53 := by
    rw [← Nat.div_div_eq_div_mul]
    exact Nat.div_lt_of_lt_mul (Nat.mul_comm _ _ ▸ hlt)
  have hround := roundHalfEven_le num (den * 2 ^ ((num / den).log2 - 52))
  have hrest : ((num / den).log2 - 52) * binade ≤ s * binade := Nat.mul_le_mul_right binade hscale
  rw [Nat.add_mul]
  show roundHalfEven num (den * 2 ^ ((num / den).log2 - 52)) +
    ((num / den).log2 - 52) * binade ≤ _
  exact Nat.add_le_add (by omega) hrest

theorem unitsAt_of_lt {place : Nat} (h : place < binade) : unitsAt place = place := by
  have hs : place / binade = 0 := Nat.div_eq_of_lt h
  simp [unitsAt, significand, scale, h, hs]

theorem unitsAt_of_le {place : Nat} (h : binade ≤ place) :
    unitsAt place = (binade + place % binade) * 2 ^ (place / binade - 1) := by
  simp [unitsAt, significand, scale, Nat.not_lt.mpr h]

theorem log2_unitsAt_of_le {place : Nat} (h : binade ≤ place) :
    (unitsAt place).log2 = 52 + (place / binade - 1) := by
  have hb : binade = 2 ^ 52 := rfl
  have hmod : place % binade < binade := Nat.mod_lt place (by decide)
  have hpos := Nat.two_pow_pos (place / binade - 1)
  have hne : unitsAt place ≠ 0 := by
    rw [unitsAt_of_le h]
    exact Nat.mul_ne_zero (by omega) (by omega)
  refine (Nat.log2_eq_iff hne).mpr ⟨?_, ?_⟩
  · rw [unitsAt_of_le h, Nat.pow_add, ← hb]
    exact Nat.mul_le_mul_right _ (Nat.le_add_right _ _)
  · have htop : (2 : Nat) ^ (52 + (place / binade - 1) + 1) =
        (binade + binade) * 2 ^ (place / binade - 1) := by
      rw [hb, Nat.pow_succ, Nat.pow_add]
      ring
    rw [unitsAt_of_le h, htop]
    exact (Nat.mul_lt_mul_right hpos).mpr (by omega)

/-- The magnitude at a place is its own rounding, however its quotient is written. -/
theorem nearestPlace_unitsAt (place : Nat) {den : Nat} (hd : 0 < den) :
    nearestPlace (unitsAt place * den) den = place := by
  have hb : binade = 2 ^ 52 := rfl
  unfold nearestPlace
  rw [Nat.mul_div_cancel _ hd]
  rcases Nat.lt_or_ge place binade with hlt | hge
  · have hlog : place.log2 - 52 = 0 := by
      by_cases hz : place = 0
      · rw [hz]
        decide
      · have := (Nat.log2_lt hz).mpr (hb ▸ hlt)
        omega
    rw [unitsAt_of_lt hlt, hlog]
    show roundHalfEven (place * den) (den * 2 ^ 0) + 0 * binade = place
    rw [Nat.zero_mul, Nat.pow_zero, Nat.mul_one]
    exact roundHalfEven_exact place hd
  · have hlog : (unitsAt place).log2 - 52 = place / binade - 1 := by
      rw [log2_unitsAt_of_le hge]
      omega
    have hquot : unitsAt place * den =
        (binade + place % binade) * (den * 2 ^ (place / binade - 1)) := by
      rw [unitsAt_of_le hge]
      ring
    have hpos : 0 < den * 2 ^ (place / binade - 1) := Nat.mul_pos hd (Nat.two_pow_pos _)
    have hone : 1 ≤ place / binade := (Nat.one_le_div_iff (by decide)).mpr hge
    have hsplit := Nat.div_add_mod' place binade
    have hscale : (place / binade - 1) * binade + binade = place / binade * binade := by
      rw [← Nat.succ_mul, Nat.succ_eq_add_one, Nat.sub_add_cancel hone]
    simp only [hlog, Nat.pow_eq]
    rw [hquot, roundHalfEven_exact _ hpos]
    omega

/-! ## Ratios -/

theorem ofRatio_mul (negative : Bool) {num den k : Nat} (hk : 0 < k) :
    ofRatio negative (num * k) (den * k) = ofRatio negative num den := by
  simp only [ofRatio, ofUnits, Nat.mul_right_comm num k, nearestPlace_mul hk]

theorem ofRatio_congr (negative : Bool) {num den num' den' : Nat} (hd : 0 < den) (hd' : 0 < den')
    (h : num * den' = num' * den) : ofRatio negative num den = ofRatio negative num' den' := by
  rw [← ofRatio_mul negative hd', h, Nat.mul_comm den den', ofRatio_mul negative hd]

theorem ofRatio_small (negative : Bool) {num den : Nat} (h : 2 * (num * one) < den) :
    ofRatio negative num den = zero negative := by
  simp only [ofRatio, ofUnits, nearestPlace_small h]
  rfl

theorem ofRatio_large (negative : Bool) {num den s : Nat} (hd : 0 < den) (hs : 2047 ≤ s)
    (h : 2 ^ (52 + s) * den ≤ num * one) : ofRatio negative num den = .infinite negative := by
  have hplace : s * binade ≤ nearestPlace (num * one) den := le_nearestPlace hd h
  have hbound : ¬nearestPlace (num * one) den < 0x7FF0000000000000 := by
    have hlast : 2047 * binade = 0x7FF0000000000000 := rfl
    have hscale : 2047 * binade ≤ s * binade := Nat.mul_le_mul_right binade hs
    omega
  rw [ofRatio, ofUnits, dif_neg hbound]

/-- A quotient that is not too large is rounded to a number. -/
theorem ofRatio_finite (negative : Bool) {num den s : Nat} (hs : 2 + s < 2047)
    (h : num * one / den < 2 ^ (53 + s)) :
    ∃ place, ofRatio negative num den = .finite negative place := by
  have hplace : nearestPlace (num * one) den < 0x7FF0000000000000 := by
    have hlast : 2047 * binade = 0x7FF0000000000000 := rfl
    rw [← hlast]
    exact Nat.lt_of_le_of_lt (nearestPlace_le h) ((Nat.mul_lt_mul_right (by decide)).mpr hs)
  rw [ofRatio, ofUnits, dif_pos hplace]
  exact ⟨_, rfl⟩

/-! ## Decimals -/

theorem decimalRatio_eq (d : Decimal) :
    decimalRatio d = (d.digits * 10 ^ d.exponent.toNat, 10 ^ (-d.exponent).toNat) := by
  rw [decimalRatio]
  split
  · next h =>
    have : (-d.exponent).toNat = 0 := by omega
    rw [this]
    rfl
  · next h =>
    have : d.exponent.toNat = 0 := by omega
    rw [this, Nat.pow_zero, Nat.mul_one]
    rfl

theorem two_pow_le_ten_pow (n : Nat) : 2 ^ (3 * n) ≤ 10 ^ n := by
  rw [Nat.pow_mul]
  exact Nat.pow_le_pow_left (by decide) n

/-- A decimal is rounded as the quotient that it is, also where no power is computed. -/
theorem ofDecimal_eq_ofRatio (negative : Bool) (d : Decimal) :
    ofDecimal negative d =
      ofRatio negative (d.digits * 10 ^ d.exponent.toNat) (10 ^ (-d.exponent).toNat) := by
  have hden : 0 < 10 ^ (-d.exponent).toNat := Nat.pow_pos (by decide)
  rw [ofDecimal, decimalRatio_eq]
  split
  · next hz =>
    rw [hz, Nat.zero_mul, ofRatio_small negative (by omega)]
  · next hz =>
    split
    · next hlarge =>
      -- with an exponent above 400 the power of ten alone is beyond all finite magnitudes
      have hexp : (-d.exponent).toNat = 0 := by omega
      have hnum : 2 ^ (3 * d.exponent.toNat) ≤ d.digits * 10 ^ d.exponent.toNat :=
        Nat.le_trans (two_pow_le_ten_pow _) (Nat.le_mul_of_pos_left _ (Nat.pos_of_ne_zero hz))
      have hsum : 52 + (3 * d.exponent.toNat + 1022) = 3 * d.exponent.toNat + oneExponent := by
        have : oneExponent = 1074 := rfl
        omega
      refine (ofRatio_large negative (s := 3 * d.exponent.toNat + 1022) hden (by omega) ?_).symm
      rw [hexp, Nat.pow_zero, Nat.mul_one, hsum, Nat.pow_add, ← one_eq]
      exact Nat.mul_le_mul_right one hnum
    · split
      · next hsmall =>
        -- the digits are below two to the `log2 + 1`, so the power of ten outweighs one's units
        have hexp : d.exponent.toNat = 0 := by omega
        have hdigits : d.digits < 2 ^ (d.digits.log2 + 1) := Nat.lt_log2_self
        have hnum : 2 * (d.digits * one) < 2 * (2 ^ (d.digits.log2 + 1) * one) :=
          Nat.mul_lt_mul_of_pos_left ((Nat.mul_lt_mul_right one_pos).mpr hdigits) (by decide)
        have hsum : d.digits.log2 + 1 + oneExponent + 1 ≤ 3 * (-d.exponent).toNat := by
          have : oneExponent = 1074 := rfl
          omega
        have hpow : 2 * (2 ^ (d.digits.log2 + 1) * one) ≤ 10 ^ (-d.exponent).toNat :=
          calc 2 * (2 ^ (d.digits.log2 + 1) * one)
              = 2 ^ (d.digits.log2 + 1 + oneExponent + 1) := by
                rw [Nat.pow_succ _ (_ + oneExponent), Nat.pow_add _ _ oneExponent, ← one_eq,
                  Nat.mul_comm]
            _ ≤ 2 ^ (3 * (-d.exponent).toNat) := Nat.pow_le_pow_right (by decide) hsum
            _ ≤ 10 ^ (-d.exponent).toNat := two_pow_le_ten_pow _
        refine (ofRatio_small negative ?_).symm
        rw [hexp, Nat.pow_zero, Nat.mul_one]
        exact Nat.lt_of_lt_of_le hnum hpow
      · rfl

/-- Zeros behind the digits are powers of ten, and reading does not tell them apart. -/
theorem ofDecimal_shift (negative : Bool) (digits k : Nat) (exponent : Int) :
    ofDecimal negative ⟨digits * 10 ^ k, exponent - k⟩ = ofDecimal negative ⟨digits, exponent⟩ := by
  rw [ofDecimal_eq_ofRatio, ofDecimal_eq_ofRatio]
  refine ofRatio_congr negative (Nat.pow_pos (by decide)) (Nat.pow_pos (by decide)) ?_
  have hexp : k + (exponent - k).toNat + (-exponent).toNat =
      exponent.toNat + (-(exponent - k)).toNat := by omega
  calc digits * 10 ^ k * 10 ^ (exponent - k).toNat * 10 ^ (-exponent).toNat
      = digits * 10 ^ (k + (exponent - k).toNat + (-exponent).toNat) := by
        rw [Nat.pow_add, Nat.pow_add]
        ring
    _ = digits * 10 ^ exponent.toNat * 10 ^ (-(exponent - k)).toNat := by
        rw [hexp, Nat.pow_add, Nat.mul_assoc]

theorem ofDecimal_stripZeros (negative : Bool) (fuel : Nat) (d : Decimal) :
    ofDecimal negative (d.stripZeros fuel) = ofDecimal negative d := by
  induction fuel generalizing d with
  | zero => rfl
  | succ fuel ih =>
    rw [Decimal.stripZeros]
    split
    · next h =>
      have hdigits : d.digits / 10 * 10 ^ 1 = d.digits := by omega
      have hexp : d.exponent + 1 - ((1 : Nat) : Int) = d.exponent := by omega
      rw [ih, ← ofDecimal_shift negative (d.digits / 10) 1 (d.exponent + 1), hdigits, hexp]
    · rfl

theorem digits_stripZeros_ne_zero (fuel : Nat) {d : Decimal} (h : d.digits ≠ 0) :
    (d.stripZeros fuel).digits ≠ 0 := by
  induction fuel generalizing d with
  | zero => exact h
  | succ fuel ih =>
    rw [Decimal.stripZeros]
    split
    · next hten =>
      have : d.digits / 10 ≠ 0 := by omega
      exact ih this
    · exact h

end Binary64
end GrantKeeper
