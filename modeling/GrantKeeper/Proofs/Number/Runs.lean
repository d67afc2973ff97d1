/-
The runs of digits that numbers are written as.

An integer is one run, without a leading zero (`WholeRun`).  A floating-point number is two runs and
an exponent, of which one of the last two is always there to tell it from an integer
(`NumberRuns`); `exists_runs_text` finds the runs of every finite number, and they stand for that
number.
-/
import GrantKeeper.Number.RealText
import GrantKeeper.Proofs.Number.Digits
import GrantKeeper.Proofs.Number.Shortest

namespace GrantKeeper

open Text

/-! ## Whole runs -/

/-- A run of digits that is no number with a leading zero. -/
structure WholeRun (ds : List Char) : Prop where
  ne_nil : ds ≠ []
  digits : ∀ c ∈ ds, isDigit c = true
  zero_alone : ds.head? = some '0' → ds = ['0']

theorem wholeRun_decimal (n : Nat) : WholeRun (decimal n) where
  ne_nil := decimal_ne_nil n
  digits _ := isDigit_of_mem_decimal
  zero_alone h := by
    by_cases hn : n = 0
    · rw [hn, decimal_zero]
    · exact absurd h (head?_decimal hn)

theorem wholeRun_singleton {c : Char} (h : isDigit c = true) : WholeRun [c] where
  ne_nil := by simp
  digits := by simpa using h
  zero_alone hz := by
    rw [List.head?_cons, Option.some.injEq] at hz
    rw [hz]

theorem WholeRun.head_ne_minus {ds : List Char} (h : WholeRun ds) (rest : List Char) :
    (ds ++ rest).head? ≠ some '-' := by
  obtain ⟨c, cs, rfl⟩ := List.exists_cons_of_ne_nil h.ne_nil
  intro hc
  have hdigit := h.digits c List.mem_cons_self
  rw [List.cons_append, List.head?_cons, Option.some.injEq] at hc
  rw [hc] at hdigit
  revert hdigit
  decide

def minus (negative : Bool) : List Char :=
  if negative then ['-'] else []

theorem decimalInt_eq (n : Int) : decimalInt n = minus (decide (n < 0)) ++ decimal n.natAbs := by
  unfold decimalInt
  by_cases h : n < 0 <;> simp [minus, h]

/-! ## Exponents -/

namespace Binary64

def exponentDigits (e : Int) : List Char :=
  if (decimal e.natAbs).length < 2 then '0' :: decimal e.natAbs else decimal e.natAbs

theorem isDigit_of_mem_exponentDigits {e : Int} {c : Char} (h : c ∈ exponentDigits e) :
    isDigit c = true := by
  unfold exponentDigits at h
  split at h
  · rcases List.mem_cons.mp h with rfl | h
    · decide
    · exact isDigit_of_mem_decimal h
  · exact isDigit_of_mem_decimal h

theorem exponentDigits_ne_nil (e : Int) : exponentDigits e ≠ [] := by
  unfold exponentDigits
  split
  · simp
  · exact decimal_ne_nil _

theorem natOfDigits_exponentDigits (e : Int) : natOfDigits (exponentDigits e) = e.natAbs := by
  unfold exponentDigits
  split
  · have hzero : natOfDigits ('0' :: decimal e.natAbs) =
        natOfDigits ['0'] * 10 ^ (decimal e.natAbs).length + natOfDigits (decimal e.natAbs) :=
      natOfDigits_append ['0'] fun _ => isDigit_of_mem_decimal
    have hone : natOfDigits ['0'] = 0 := rfl
    rw [hzero, hone, Nat.zero_mul, Nat.zero_add, natOfDigits_decimal]
  · exact natOfDigits_decimal _

theorem exponentText_eq (e : Int) :
    exponentText e = (if e < 0 then '-' else '+') :: exponentDigits e := rfl

end Binary64

/-! ## Floating-point numbers -/

/-- The runs that a floating-point number is written as: digits, digits behind a point and an
exponent, of which the last two may be missing, but not both. -/
structure NumberRuns where
  whole : List Char
  fraction : List Char
  exponent : Option Int
  wholeRun : WholeRun whole
  fractionRun : ∀ c ∈ fraction, isDigit c = true
  marked : ¬(fraction = [] ∧ exponent = none)

namespace NumberRuns

def exponentMark : Option Int → List Char
  | none => []
  | some e => 'e' :: Binary64.exponentText e

def tail (r : NumberRuns) : List Char :=
  (if r.fraction = [] then [] else '.' :: r.fraction) ++ exponentMark r.exponent

def text (r : NumberRuns) : List Char :=
  r.whole ++ r.tail

def read (r : NumberRuns) (negative : Bool) : Binary64 :=
  Binary64.ofDigitRuns negative r.whole r.fraction (r.exponent.getD 0)

/-- The runs of a decimal below one: zeros behind the point and then its digits. -/
theorem exists_runs_below_one (digits : Nat) {e : Int} (he : e < 0) :
    ∃ r : NumberRuns, r.text = Binary64.positional (decimal digits) e ∧ ∀ negative,
      r.read negative =
        Binary64.ofDecimal negative ⟨digits, e + 1 - ((decimal digits).length : Int)⟩ := by
  have hrun : ∀ c ∈ List.replicate (-e - 1).toNat '0' ++ decimal digits, isDigit c = true := by
    intro c hc
    rcases List.mem_append.mp hc with hc | hc
    · exact isDigit_of_mem_replicate hc
    · exact isDigit_of_mem_decimal hc
  have hne : List.replicate (-e - 1).toNat '0' ++ decimal digits ≠ [] := by
    simp [decimal_ne_nil]
  refine ⟨⟨['0'], List.replicate (-e - 1).toNat '0' ++ decimal digits, none,
    wholeRun_singleton (by decide), hrun, fun h => hne h.1⟩, ?_, fun negative => ?_⟩
  · rw [text, tail, if_neg hne, Binary64.positional, if_pos he]
    simp [exponentMark]
  · have hzero : natOfDigits ['0'] = 0 := rfl
    have hvalue : natOfDigits (['0'] ++ (List.replicate (-e - 1).toNat '0' ++ decimal digits)) =
        digits := by
      rw [natOfDigits_append _ hrun, natOfDigits_append _ fun _ => isDigit_of_mem_decimal,
        natOfDigits_replicate_zero, natOfDigits_decimal, hzero, Nat.zero_mul, Nat.zero_mul,
        Nat.zero_add, Nat.zero_add]
    have hexp : (0 : Int) -
        ((List.replicate (-e - 1).toNat '0' ++ decimal digits).length : Int) =
          e + 1 - ((decimal digits).length : Int) := by
      rw [List.length_append, List.length_replicate]
      omega
    rw [read, Binary64.ofDigitRuns, Option.getD_none, hvalue, hexp]

/-- The runs of a whole decimal: zeros behind its digits, and one behind the point. -/
theorem exists_runs_whole {digits : Nat} (hd : digits ≠ 0) {e : Int} (he : 0 ≤ e)
    (hlen : (decimal digits).length ≤ e.toNat + 1) :
    ∃ r : NumberRuns, r.text = Binary64.positional (decimal digits) e ∧ ∀ negative,
      r.read negative =
        Binary64.ofDecimal negative ⟨digits, e + 1 - ((decimal digits).length : Int)⟩ := by
  have hzeros : ∀ k, ∀ c ∈ List.replicate k '0', isDigit c = true :=
    fun _ _ => isDigit_of_mem_replicate
  have hwhole : WholeRun
      (decimal digits ++ List.replicate (e.toNat + 1 - (decimal digits).length) '0') := by
    refine ⟨by simp [decimal_ne_nil], fun c hc => ?_, fun h => ?_⟩
    · rcases List.mem_append.mp hc with hc | hc
      · exact isDigit_of_mem_decimal hc
      · exact hzeros _ c hc
    · rw [List.head?_append, Option.or_of_isSome (List.isSome_head?.mpr (decimal_ne_nil digits))]
        at h
      exact absurd h (head?_decimal hd)
  refine ⟨⟨_, ['0'], none, hwhole, fun _ => isDigit_of_mem_zero, by simp⟩, ?_, fun negative => ?_⟩
  · rw [text, tail, Binary64.positional, if_neg (Int.not_lt.mpr he), if_pos hlen]
    simp [exponentMark]
  · have hvalue : natOfDigits (decimal digits ++
        List.replicate (e.toNat + 1 - (decimal digits).length) '0' ++ ['0']) =
          digits * 10 ^ (e.toNat + 1 - (decimal digits).length + 1) := by
      rw [List.append_assoc, ← List.replicate_succ', natOfDigits_append _ (hzeros _),
        natOfDigits_replicate_zero, natOfDigits_decimal, List.length_replicate, Nat.add_zero]
    have hexp : (0 : Int) - (['0'].length : Int) = e + 1 - ((decimal digits).length : Int) -
        ((e.toNat + 1 - (decimal digits).length + 1 : Nat) : Int) := by
      rw [List.length_singleton]
      omega
    rw [read, Binary64.ofDigitRuns, Option.getD_none, hvalue, hexp, Binary64.ofDecimal_shift]

/-- The runs of a decimal with its point among the digits. -/
theorem exists_runs_between {digits : Nat} (hd : digits ≠ 0) {e : Int} (he : 0 ≤ e)
    (hlen : e.toNat + 1 < (decimal digits).length) :
    ∃ r : NumberRuns, r.text = Binary64.positional (decimal digits) e ∧ ∀ negative,
      r.read negative =
        Binary64.ofDecimal negative ⟨digits, e + 1 - ((decimal digits).length : Int)⟩ := by
  have hwhole : WholeRun ((decimal digits).take (e.toNat + 1)) := by
    refine ⟨?_, fun c hc => isDigit_of_mem_decimal (List.mem_of_mem_take hc), fun h => ?_⟩
    · simp [decimal_ne_nil]
    · rw [List.head?_take, if_neg (by omega)] at h
      exact absurd h (head?_decimal hd)
  have hfraction : (decimal digits).drop (e.toNat + 1) ≠ [] := by
    rw [Ne, List.drop_eq_nil_iff]
    omega
  refine ⟨⟨_, (decimal digits).drop (e.toNat + 1), none, hwhole,
    fun c hc => isDigit_of_mem_decimal (List.mem_of_mem_drop hc), fun h => hfraction h.1⟩, ?_,
    fun negative => ?_⟩
  · rw [text, tail, if_neg hfraction, Binary64.positional, if_neg (Int.not_lt.mpr he),
      if_neg (Nat.not_le.mpr hlen)]
    simp [exponentMark]
  · have hexp : (0 : Int) - (((decimal digits).drop (e.toNat + 1)).length : Int) =
        e + 1 - ((decimal digits).length : Int) := by
      rw [List.length_drop]
      omega
    rw [read, Binary64.ofDigitRuns, Option.getD_none, List.take_append_drop, natOfDigits_decimal,
      hexp]

/-- The runs of a decimal with an exponent: the first digit, and the others behind the point. -/
theorem exists_runs_scientific (digits : Nat) (e : Int) :
    ∃ r : NumberRuns, r.text = Binary64.scientific (decimal digits) e ∧ ∀ negative,
      r.read negative =
        Binary64.ofDecimal negative ⟨digits, e + 1 - ((decimal digits).length : Int)⟩ := by
  obtain ⟨c, cs, hcs⟩ := List.exists_cons_of_ne_nil (decimal_ne_nil digits)
  have hdigits : ∀ x ∈ c :: cs, isDigit x = true := fun x hx =>
    isDigit_of_mem_decimal (hcs ▸ hx)
  refine ⟨⟨[c], cs, some e, wholeRun_singleton (hdigits c List.mem_cons_self),
    fun x hx => hdigits x (List.mem_cons_of_mem c hx), by simp⟩, ?_, fun negative => ?_⟩
  · rw [hcs, text, tail]
    cases cs with
    | nil => rfl
    | cons d ds => simp [exponentMark, Binary64.scientific]
  · have hexp : e - (cs.length : Int) = e + 1 - ((c :: cs).length : Int) := by
      rw [List.length_cons]
      omega
    rw [read, Binary64.ofDigitRuns, Option.getD_some, List.singleton_append, ← hcs,
      natOfDigits_decimal, hcs, hexp]

/-- The text of a decimal is that of runs that stand for it. -/
theorem exists_runs_decimalText {d : Decimal} (hd : d.digits ≠ 0) :
    ∃ r : NumberRuns, r.text = Binary64.decimalText d ∧ ∀ negative,
      r.read negative = Binary64.ofDecimal negative d := by
  have hdigits := Binary64.digits_stripZeros_ne_zero (d.digits + 1) hd
  have hread := fun negative => Binary64.ofDecimal_stripZeros negative (d.digits + 1) d
  rw [Binary64.decimalText]
  generalize d.stripZeros (d.digits + 1) = s at hdigits hread
  have hexp : s.exponent + ((decimal s.digits).length : Int) - 1 + 1 -
      ((decimal s.digits).length : Int) = s.exponent := by omega
  simp only [← hread]
  generalize he : s.exponent + ((decimal s.digits).length : Int) - 1 = e at hexp
  have hs : s = ⟨s.digits, e + 1 - ((decimal s.digits).length : Int)⟩ := by rw [hexp]
  rw [hs]
  split
  · rcases Int.lt_or_le e 0 with hneg | hpos
    · exact exists_runs_below_one s.digits hneg
    · rcases Nat.lt_or_ge (e.toNat + 1) (decimal s.digits).length with hlt | hge
      · exact exists_runs_between hdigits hpos hlt
      · exact exists_runs_whole hdigits hpos hge
  · exact exists_runs_scientific s.digits e

/-- The text of a finite number without its sign is that of runs that stand for it. -/
theorem exists_runs_text {place : Nat} (hp : place < 0x7FF0000000000000) :
    ∃ r : NumberRuns, r.text = Binary64.magnitudeText place ∧ ∀ negative,
      r.read negative = .finite negative ⟨place, hp⟩ := by
  rw [Binary64.magnitudeText]
  split
  · next hz =>
    subst hz
    exact ⟨⟨['0'], ['0'], none, wholeRun_singleton (by decide), fun _ => isDigit_of_mem_zero,
      by simp⟩, rfl, fun _ => rfl⟩
  · next hne =>
    obtain ⟨r, htext, hread⟩ :=
      exists_runs_decimalText (Binary64.digits_shortest_ne_zero hp hne)
    exact ⟨r, htext, fun negative => (hread negative).trans
      (Binary64.ofDecimal_shortest negative hp)⟩

end NumberRuns

end GrantKeeper
