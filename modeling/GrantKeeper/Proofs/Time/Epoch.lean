/-
Instants as seconds since the start of 1970.

A whole number of seconds names the instant that lies so many seconds after the start of 1970, if
one of the years 1 to 9999 does (`ofWholeSeconds?_eq_some_iff`).  As a floating-point number it names
the same, also where rounding changes it (`ofSeconds?_ofInt`), and the instant that it names has that
many seconds (`epochSeconds?_ofUtc`).
-/
import GrantKeeper.Proofs.Number.Integral
import GrantKeeper.Time.Epoch

namespace GrantKeeper

/-! ## Clocks -/

theorem Moment.ofMicros?_micros (m : Moment) : ofMicros? m.micros = some m :=
  dif_pos ⟨Int.natCast_nonneg m.micros, m.micros_lt⟩

/-- The instant of a clock reading is that of its microseconds on the clock of UTC. -/
theorem Timestamp.toUtc?_eq (t : Timestamp) : t.toUtc? = Moment.ofMicros? t.utcMicros := by
  unfold toUtc?
  cases hoffset : t.offset with
  | none => rw [utcMicros, hoffset, Moment.ofMicros?_micros]
  | some offset => rfl

theorem Timestamp.utcMicros_ofUtc (m : Moment) : (ofUtc m).utcMicros = m.micros := by
  show (m.micros : Int) - 0 = m.micros
  rw [Int.sub_zero]

theorem Timestamp.toUtc?_ofUtc (m : Moment) : (ofUtc m).toUtc? = some m := by
  rw [toUtc?_eq, utcMicros_ofUtc, Moment.ofMicros?_micros]

namespace Moment

theorem ofMicros?_eq_some_iff {n : Int} {m : Moment} : ofMicros? n = some m ↔ n = m.micros := by
  constructor
  · intro h
    unfold ofMicros? at h
    split at h
    · next hrange =>
      cases h
      exact (Int.toNat_of_nonneg hrange.1).symm
    · cases h
  · rintro rfl
    exact m.ofMicros?_micros

/-! ## From seconds -/

/-- The instant of a number of seconds is the one that lies so many seconds after 1970. -/
theorem ofWholeSeconds?_eq_some_iff {n : Int} {m : Moment} :
    ofWholeSeconds? n = some m ↔ m.sinceEpoch = n * (microsPerSecond : Int) := by
  rw [ofWholeSeconds?, ofEpochMicros?, ofMicros?_eq_some_iff, sinceEpoch]
  omega

theorem ofWholeSeconds?_eq_none_iff {n : Int} :
    ofWholeSeconds? n = none ↔ ∀ m : Moment, m.sinceEpoch ≠ n * (microsPerSecond : Int) := by
  simp only [Option.eq_none_iff_forall_ne_some, ne_eq, ofWholeSeconds?_eq_some_iff]

/-- The years 1 to 9999 have less than 10^12 seconds. -/
theorem natAbs_lt_of_sinceEpoch {n : Int} {m : Moment}
    (h : m.sinceEpoch = n * (microsPerSecond : Int)) : n.natAbs < 10 ^ 12 := by
  have hdays : Calendar.dayCount * microsPerDay = 315537897600000000 := by decide
  have hepoch : epochMicros = 62135596800000000 := by decide
  have hlt := m.micros_lt
  rw [hdays] at hlt
  rw [sinceEpoch, hepoch, microsPerSecond] at h
  omega

theorem ofWholeSeconds?_of_large {n : Int} (h : 10 ^ 12 ≤ n.natAbs) : ofWholeSeconds? n = none :=
  ofWholeSeconds?_eq_none_iff.mpr fun _ hm => absurd (natAbs_lt_of_sinceEpoch hm) (Nat.not_lt.mpr h)

/-- A number that is whole has no part behind the point to be rounded. -/
theorem microsOf?_of_units? {x : Binary64} {n : Int}
    (h : x.units? = some (n * (Binary64.one : Int))) :
    microsOf? x = some (n * (microsPerSecond : Int)) := by
  have hone : (Binary64.one : Int) ≠ 0 := Int.natCast_ne_zero.mpr Binary64.one_pos.ne'
  have hpart : (Binary64.ofSignedUnits 0 1).units? = some 0 := by decide
  refine Option.bind_eq_some_iff.mpr ⟨_, h, Option.bind_eq_some_iff.mpr ⟨0, ?_, ?_⟩⟩
  · rw [Int.mul_tdiv_cancel _ hone, Int.sub_self, Int.zero_mul, hpart]
  · simp only [Int.mul_tdiv_cancel _ hone, Int.sign_zero, Int.zero_mul, Int.add_zero]

theorem ofSeconds?_of_units? {x : Binary64} {n : Int}
    (h : x.units? = some (n * (Binary64.one : Int))) : ofSeconds? x = ofWholeSeconds? n := by
  rw [ofSeconds?, microsOf?_of_units? h]
  rfl

/-- An integer names the same instant whether it is rounded to a floating-point number or not: where
that changes it, it is too large in either form. -/
theorem ofSeconds?_ofInt (n : Int) : ofSeconds? (Binary64.ofInt n) = ofWholeSeconds? n := by
  by_cases hexact : n.natAbs < 2 ^ 53
  · exact ofSeconds?_of_units? (Binary64.units?_ofInt_of_lt hexact)
  · have hlarge : 2 ^ 53 ≤ n.natAbs := Nat.le_of_not_lt hexact
    -- What it is rounded to, if that is finite, has too many seconds as well.
    rw [ofWholeSeconds?_of_large (n := n) (by omega)]
    rcases Binary64.units?_ofInt_of_le hlarge with hnone | ⟨k, hk, hunits⟩
    · rw [ofSeconds?, microsOf?, hnone]
      rfl
    · rw [ofSeconds?_of_units? hunits, ofWholeSeconds?_of_large (by omega)]

end Moment

/-! ## To seconds -/

/-- The seconds of an instant that lies a whole number of them after 1970 are that number. -/
theorem Timestamp.epochSeconds?_ofUtc {m : Moment} {n : Int}
    (h : m.sinceEpoch = n * (microsPerSecond : Int)) : (ofUtc m).epochSeconds? = some n := by
  have hexact : n.natAbs < 2 ^ 53 := (Moment.natAbs_lt_of_sinceEpoch h).trans (by decide)
  show (Binary64.ofIntRatio ((ofUtc m).utcMicros - (Moment.epochMicros : Int))
    microsPerSecond).truncate? = some n
  rw [utcMicros_ofUtc, ← Moment.sinceEpoch, h, Binary64.ofIntRatio_mul n (by decide)]
  exact Binary64.truncate?_of_units? (Binary64.units?_ofInt_of_lt hexact)

end GrantKeeper
