/-
Days and dates of the years 1 to 9999.

Every day has a date of the calendar, and that date names the day (`isDate_dateOf`, `dayOf_dateOf`).
-/
import GrantKeeper.Time.Calendar
import Mathlib.Tactic.Ring

namespace GrantKeeper
namespace Calendar

/-! ## Years -/

/-- The days before a year that is reached by four-hundreds, hundreds, fours and single years. -/
theorem daysBeforeYear_of_periods {q h b y : Nat} (hh : h ≤ 3) (hb : b ≤ 24) (hy : y ≤ 3) :
    daysBeforeYear (q * 400 + h * 100 + b * 4 + y + 1) =
      q * 146097 + h * 36524 + b * 1461 + y * 365 := by
  unfold daysBeforeYear
  simp only [Nat.add_sub_cancel]
  have hfours : (q * 400 + h * 100 + b * 4 + y) / 4 = q * 100 + h * 25 + b := by omega
  have hhundreds : (q * 400 + h * 100 + b * 4 + y) / 100 = q * 4 + h := by omega
  have hfourHundreds : (q * 400 + h * 100 + b * 4 + y) / 400 = q := by omega
  rw [hfours, hhundreds, hfourHundreds]
  omega

theorem daysBeforeMonth_thirteen (year : Nat) :
    daysBeforeMonth year 13 = if isLeap year then 366 else 365 := by
  simp only [daysBeforeMonth, daysInMonth]
  split <;> rfl

/-- The year of a day starts on or before it, ends behind it, and is one of the calendar's. -/
theorem yearOf_spec {day : Nat} (h : day < dayCount) :
    1 ≤ yearOf day ∧ yearOf day ≤ 9999 ∧ daysBeforeYear (yearOf day) ≤ day ∧
      day < daysBeforeYear (yearOf day) + daysBeforeMonth (yearOf day) 13 := by
  unfold dayCount at h
  unfold yearOf
  dsimp only
  generalize hhundreds : min (day % 146097 / 36524) 3 = hundreds
  generalize hinHundred : day % 146097 - hundreds * 36524 = inHundred
  generalize hyears : min (inHundred % 1461 / 365) 3 = years
  generalize hq : day / 146097 = q
  generalize hb : inHundred / 1461 = b
  have hh : hundreds ≤ 3 := by omega
  have hlast : inHundred ≤ 36524 := by omega
  have hfours : b ≤ 24 := by omega
  have hy : years ≤ 3 := by omega
  have hday : day = q * 146097 + hundreds * 36524 + inHundred := by omega
  rw [daysBeforeYear_of_periods hh hfours hy, daysBeforeMonth_thirteen]
  refine ⟨by omega, by omega, by omega, ?_⟩
  -- Only the last year of four can have a 366th day, and then it is a leap year.
  by_cases hlong : inHundred % 1461 = 1460
  · have hleap : isLeap (q * 400 + hundreds * 100 + b * 4 + years + 1) = true := by
      unfold isLeap
      rw [Bool.and_eq_true, Bool.or_eq_true, beq_iff_eq, bne_iff_ne, beq_iff_eq]
      omega
    rw [if_pos hleap]
    omega
  · split <;> omega

/-! ## Months -/

theorem monthFrom_spec (year : Nat) {dayOfYear month : Nat} (hmonth : 1 ≤ month)
    (h : dayOfYear < daysBeforeMonth year (month + 1)) :
    1 ≤ monthFrom year dayOfYear month ∧ monthFrom year dayOfYear month ≤ month ∧
      daysBeforeMonth year (monthFrom year dayOfYear month) ≤ dayOfYear ∧
      dayOfYear < daysBeforeMonth year (monthFrom year dayOfYear month + 1) := by
  induction month with
  | zero => omega
  | succ month ih =>
    cases month with
    | zero => exact ⟨Nat.le_refl 1, Nat.le_refl 1, Nat.zero_le dayOfYear, h⟩
    | succ month =>
      rw [monthFrom]
      split
      · next hstart => exact ⟨by omega, Nat.le_refl _, hstart, h⟩
      · next hstart =>
        obtain ⟨hlow, hhigh, hbounds⟩ := ih (by omega) (Nat.lt_of_not_le hstart)
        exact ⟨hlow, by omega, hbounds⟩

theorem daysBeforeMonth_succ (year : Nat) {month : Nat} (h : 1 ≤ month) :
    daysBeforeMonth year (month + 1) = daysBeforeMonth year month + daysInMonth year month := by
  obtain ⟨month, rfl⟩ : ∃ m, month = m + 1 := ⟨month - 1, by omega⟩
  rfl

/-! ## Dates -/

theorem dateOf_spec {day : Nat} (h : day < dayCount) :
    isDate (dateOf day).1 (dateOf day).2.1 (dateOf day).2.2 = true ∧
      dayOf (dateOf day).1 (dateOf day).2.1 (dateOf day).2.2 = day := by
  obtain ⟨hfirst, hlast, hstart, hend⟩ := yearOf_spec h
  unfold dateOf
  dsimp only
  generalize yearOf day = year at *
  have hdays : day - daysBeforeYear year < daysBeforeMonth year (12 + 1) := by
    show _ < daysBeforeMonth year 13
    omega
  obtain ⟨hlow, hhigh, hbefore, hafter⟩ := monthFrom_spec year (by omega) hdays
  generalize monthFrom year (day - daysBeforeYear year) 12 = month at *
  rw [daysBeforeMonth_succ year hlow] at hafter
  constructor
  · unfold isDate
    simp only [Bool.and_eq_true, decide_eq_true_iff]
    omega
  · unfold dayOf
    omega

theorem isDate_dateOf {day : Nat} (h : day < dayCount) :
    isDate (dateOf day).1 (dateOf day).2.1 (dateOf day).2.2 = true :=
  (dateOf_spec h).1

theorem dayOf_dateOf {day : Nat} (h : day < dayCount) :
    dayOf (dateOf day).1 (dateOf day).2.1 (dateOf day).2.2 = day :=
  (dateOf_spec h).2

theorem isDate_iff {year month day : Nat} :
    isDate year month day = true ↔
      (1 ≤ year ∧ year ≤ 9999) ∧ (1 ≤ month ∧ month ≤ 12) ∧ 1 ≤ day ∧
        day ≤ daysInMonth year month := by
  unfold isDate
  simp only [Bool.and_eq_true, decide_eq_true_iff, and_assoc]

theorem daysInMonth_le (year month : Nat) : daysInMonth year month ≤ 31 := by
  unfold daysInMonth
  split
  · split <;> omega
  · omega
  · omega
  · omega
  · omega
  · omega

end Calendar
end GrantKeeper
