/-
Runs of decimal digits: the number that a run stands for, and the run that a number is written as.

`natOfDigits_decimal` says that reading undoes writing, and `head?_decimal` that a number other than
zero is written without a leading zero.  A run read behind another counts the powers of ten between
them, which is what places a point inside a run (`natOfDigits_append`).
-/
import GrantKeeper.Number.Decimal
import GrantKeeper.Number.Reader
import Mathlib.Tactic.Ring

namespace GrantKeeper

open Text

/-! ## Single digits -/

theorem digitValue?_digit {n : Nat} (h : n < 10) : digitValue? (digit n) = some n := by
  revert n
  decide

theorem isDigit_digit {n : Nat} (h : n < 10) : isDigit (digit n) = true := by
  rw [isDigit, digitValue?_digit h]
  rfl

theorem digit_ne_zero {n : Nat} (h : n < 10) (hn : n ≠ 0) : digit n ≠ '0' := by
  revert n
  decide

theorem exists_digit {c : Char} (h : isDigit c = true) : ∃ n, n < 10 ∧ digit n = c := by
  unfold isDigit digitValue? at h
  split at h
  · next hrange =>
    have hcode : 0x30 + (c.toNat - 0x30) = c.toNat := by omega
    refine ⟨c.toNat - 0x30, by omega, ?_⟩
    rw [digit, hcode, Char.ofNat_toNat]
  · cases h

/-! ## Runs -/

theorem ofDigits_from (ds : List Nat) (start : Nat) :
    ds.foldl (fun n d => n * 10 + d) start = start * 10 ^ ds.length + ofDigits ds := by
  unfold ofDigits
  induction ds generalizing start with
  | nil => simp
  | cons d ds ih =>
    rw [List.foldl_cons, List.foldl_cons, ih, ih (0 * 10 + d), List.length_cons, Nat.pow_succ]
    ring

theorem ofDigits_append (ds es : List Nat) :
    ofDigits (ds ++ es) = ofDigits ds * 10 ^ es.length + ofDigits es := by
  rw [ofDigits, List.foldl_append, ofDigits_from]
  rfl

theorem length_filterMap_digitValue? {cs : List Char} (h : ∀ c ∈ cs, isDigit c = true) :
    (cs.filterMap digitValue?).length = cs.length := by
  induction cs with
  | nil => rfl
  | cons c cs ih =>
    obtain ⟨v, hv⟩ := Option.isSome_iff_exists.mp (h c List.mem_cons_self)
    rw [List.filterMap_cons_some hv, List.length_cons, List.length_cons,
      ih fun x hx => h x (List.mem_cons_of_mem c hx)]

/-- The digits behind a run move it up by as many powers of ten. -/
theorem natOfDigits_append (cs : List Char) {ds : List Char} (h : ∀ c ∈ ds, isDigit c = true) :
    natOfDigits (cs ++ ds) = natOfDigits cs * 10 ^ ds.length + natOfDigits ds := by
  rw [natOfDigits, List.filterMap_append, ofDigits_append, length_filterMap_digitValue? h]
  rfl

theorem isDigit_of_mem_zero {c : Char} (h : c ∈ ['0']) : isDigit c = true := by
  rw [List.mem_singleton.mp h]
  rfl

theorem natOfDigits_replicate_zero (n : Nat) : natOfDigits (List.replicate n '0') = 0 := by
  induction n with
  | zero => rfl
  | succ n ih =>
    rw [List.replicate_succ', natOfDigits_append _ fun _ => isDigit_of_mem_zero, ih]
    rfl

theorem isDigit_of_mem_replicate {n : Nat} {c : Char} (h : c ∈ List.replicate n '0') :
    isDigit c = true := by
  rw [List.eq_of_mem_replicate h]
  decide

/-! ## Padded numbers -/

@[simp] theorem length_padded (width n : Nat) : (padded width n).length = width := by
  induction width generalizing n with
  | zero => rfl
  | succ width ih => rw [padded, List.length_append, ih, List.length_singleton]

theorem isDigit_of_mem_padded {width n : Nat} {c : Char} (h : c ∈ padded width n) :
    isDigit c = true := by
  induction width generalizing n with
  | zero => cases h
  | succ width ih =>
    rw [padded] at h
    rcases List.mem_append.mp h with h | h
    · exact ih h
    · rw [List.mem_singleton.mp h]
      exact isDigit_digit (Nat.mod_lt n (by omega))

theorem natOfDigits_digit {n : Nat} (h : n < 10) : natOfDigits [digit n] = n := by
  simp [natOfDigits, digitValue?_digit h, ofDigits]

/-- Of a number that is too long for its width only the last digits are written. -/
theorem natOfDigits_padded (width n : Nat) : natOfDigits (padded width n) = n % 10 ^ width := by
  induction width generalizing n with
  | zero => rw [Nat.pow_zero, Nat.mod_one]; rfl
  | succ width ih =>
    have hlast : n % 10 < 10 := Nat.mod_lt n (by omega)
    have hds : ∀ c ∈ [digit (n % 10)], isDigit c = true := by
      simpa using isDigit_digit hlast
    rw [padded, natOfDigits_append _ hds, ih, natOfDigits_digit hlast, List.length_singleton,
      Nat.pow_one, Nat.pow_succ', Nat.mod_mul]
    ring

/-! ## Written numbers -/

theorem decimalWithin_ne_nil {fuel n : Nat} (h : n < fuel) : decimalWithin fuel n ≠ [] := by
  cases fuel with
  | zero => omega
  | succ fuel =>
    rw [decimalWithin]
    split <;> simp

theorem isDigit_of_mem_decimalWithin {fuel n : Nat} {c : Char} (h : c ∈ decimalWithin fuel n) :
    isDigit c = true := by
  induction fuel generalizing n with
  | zero => simp [decimalWithin] at h
  | succ fuel ih =>
    rw [decimalWithin] at h
    split at h
    · next hn =>
      rw [List.mem_singleton.mp h]
      exact isDigit_digit hn
    · rcases List.mem_append.mp h with h | h
      · exact ih h
      · rw [List.mem_singleton.mp h]
        exact isDigit_digit (Nat.mod_lt n (by omega))

theorem natOfDigits_decimalWithin {fuel n : Nat} (h : n < fuel) :
    natOfDigits (decimalWithin fuel n) = n := by
  induction fuel generalizing n with
  | zero => omega
  | succ fuel ih =>
    rw [decimalWithin]
    split
    · next hn => exact natOfDigits_digit hn
    · have hlast : n % 10 < 10 := Nat.mod_lt n (by omega)
      have hds : ∀ c ∈ [digit (n % 10)], isDigit c = true := by
        simpa using isDigit_digit hlast
      rw [natOfDigits_append _ hds, ih (by omega), natOfDigits_digit hlast, List.length_singleton]
      omega

theorem head?_decimalWithin {fuel n : Nat} (h : n < fuel) (hn : n ≠ 0) :
    (decimalWithin fuel n).head? ≠ some '0' := by
  induction fuel generalizing n with
  | zero => omega
  | succ fuel ih =>
    rw [decimalWithin]
    split
    · next hlt => simpa using digit_ne_zero hlt hn
    · have hne : decimalWithin fuel (n / 10) ≠ [] := decimalWithin_ne_nil (by omega)
      rw [List.head?_append, Option.or_of_isSome (List.isSome_head?.mpr hne)]
      exact ih (by omega) (by omega)

theorem decimal_ne_nil (n : Nat) : decimal n ≠ [] := decimalWithin_ne_nil (Nat.lt_succ_self n)

theorem isDigit_of_mem_decimal {n : Nat} {c : Char} (h : c ∈ decimal n) : isDigit c = true :=
  isDigit_of_mem_decimalWithin h

theorem natOfDigits_decimal (n : Nat) : natOfDigits (decimal n) = n :=
  natOfDigits_decimalWithin (Nat.lt_succ_self n)

/-- No number but zero is written with a leading zero. -/
theorem head?_decimal {n : Nat} (hn : n ≠ 0) : (decimal n).head? ≠ some '0' :=
  head?_decimalWithin (Nat.lt_succ_self n) hn

theorem decimal_zero : decimal 0 = ['0'] := rfl

theorem length_decimalWithin_le_iff {fuel n k : Nat} (h : n < fuel) :
    (decimalWithin fuel n).length ≤ k + 1 ↔ n < 10 ^ (k + 1) := by
  induction fuel generalizing n k with
  | zero => omega
  | succ fuel ih =>
    rw [decimalWithin]
    split
    · next hn =>
      have hten : 10 ≤ 10 ^ (k + 1) := Nat.le_self_pow (by omega) 10
      simp only [List.length_singleton]
      omega
    · rw [List.length_append, List.length_singleton, Nat.add_le_add_iff_right]
      cases k with
      | zero =>
        have hne : decimalWithin fuel (n / 10) ≠ [] := decimalWithin_ne_nil (by omega)
        have hpos := List.length_pos_iff.mpr hne
        rw [Nat.zero_add, Nat.pow_one]
        omega
      | succ k =>
        rw [ih (by omega), Nat.div_lt_iff_lt_mul (by decide), ← Nat.pow_succ]

/-- A number has at most so many digits exactly if it is below that power of ten. -/
theorem length_decimal_le_iff {n k : Nat} (hk : 0 < k) :
    (decimal n).length ≤ k ↔ n < 10 ^ k := by
  obtain ⟨k, rfl⟩ := Nat.exists_eq_succ_of_ne_zero (Nat.ne_of_gt hk)
  exact length_decimalWithin_le_iff (Nat.lt_succ_self n)

end GrantKeeper
