import Mathlib.Data.Int.Notation
import Mathlib.Tactic.Common

/-!
# Lib/Calendar — the proleptic Gregorian calendar

Days are counted from 1970-01-01.  `civilDate` reads the date of a day, `dayNumber` the day of a
date.  The year starts in March inside, so that the leap day comes last.
-/

namespace Cerbero

namespace Calendar

/-- The civil date of a day counted from 1970-01-01: year, month and day. -/
def civilDate (days : ℤ) : ℤ × ℤ × ℤ :=
  let shifted := days + 719468
  let era := shifted / 146097
  let dayOfEra := shifted % 146097
  let yearOfEra := (dayOfEra - dayOfEra / 1460 + dayOfEra / 36524 - dayOfEra / 146096) / 365
  let dayOfYear := dayOfEra - (365 * yearOfEra + yearOfEra / 4 - yearOfEra / 100)
  let shiftedMonth := (5 * dayOfYear + 2) / 153
  let day := dayOfYear - (153 * shiftedMonth + 2) / 5 + 1
  let month := if shiftedMonth < 10 then shiftedMonth + 3 else shiftedMonth - 9
  (yearOfEra + era * 400 + (if month ≤ 2 then 1 else 0), month, day)

/-- The day of a civil date. -/
def dayNumber (year month day : ℤ) : ℤ :=
  let shiftedYear := if month ≤ 2 then year - 1 else year
  let era := shiftedYear / 400
  let yearOfEra := shiftedYear % 400
  let shiftedMonth := if month ≤ 2 then month + 9 else month - 3
  let dayOfYear := (153 * shiftedMonth + 2) / 5 + day - 1
  let dayOfEra := yearOfEra * 365 + yearOfEra / 4 - yearOfEra / 100 + dayOfYear
  era * 146097 + dayOfEra - 719468

/-- Is the date in the calendar? -/
def isCivilDate (year month day : ℤ) : Bool :=
  civilDate (dayNumber year month day) == (year, month, day)

example : civilDate 20709 = (2026, 9, 13) ∧ dayNumber 2026 9 13 = 20709 ∧
    isCivilDate 2026 2 29 = false ∧ isCivilDate 2028 2 29 = true := by decide

/-! ## Days are their dates -/

/-- The date of a day of a year that starts in March. -/
def fromMarch (year dayOfYear : ℤ) : ℤ × ℤ × ℤ :=
  let shiftedMonth := (5 * dayOfYear + 2) / 153
  let day := dayOfYear - (153 * shiftedMonth + 2) / 5 + 1
  let month := if shiftedMonth < 10 then shiftedMonth + 3 else shiftedMonth - 9
  (year + (if month ≤ 2 then 1 else 0), month, day)

theorem dayNumber_fromMarch {year dayOfYear : ℤ} (h : 0 ≤ dayOfYear) (h' : dayOfYear ≤ 366) :
    dayNumber (fromMarch year dayOfYear).1 (fromMarch year dayOfYear).2.1
      (fromMarch year dayOfYear).2.2 =
      year / 400 * 146097 + (year % 400 * 365 + year % 400 / 4 - year % 400 / 100 + dayOfYear) -
        719468 := by
  by_cases hearly : (5 * dayOfYear + 2) / 153 < 10
  · have hmonth : ¬ (5 * dayOfYear + 2) / 153 + 3 ≤ 2 := by omega
    have hdate : fromMarch year dayOfYear = (year, (5 * dayOfYear + 2) / 153 + 3,
        dayOfYear - (153 * ((5 * dayOfYear + 2) / 153) + 2) / 5 + 1) := by
      simp only [fromMarch, if_pos hearly, if_neg hmonth, Int.add_zero]
    rw [hdate]
    simp only [dayNumber, if_neg hmonth, Int.add_sub_cancel]
    omega
  · have hmonth : (5 * dayOfYear + 2) / 153 - 9 ≤ 2 := by omega
    have hdate : fromMarch year dayOfYear = (year + 1, (5 * dayOfYear + 2) / 153 - 9,
        dayOfYear - (153 * ((5 * dayOfYear + 2) / 153) + 2) / 5 + 1) := by
      simp only [fromMarch, if_neg hearly, if_pos hmonth]
    rw [hdate]
    simp only [dayNumber, if_pos hmonth, Int.add_sub_cancel, Int.sub_add_cancel]
    omega

/-- The year a day of an era of 400 years belongs to, and the day of that year. -/
theorem yearOfEra_bounds {dayOfEra : ℤ} (h : 0 ≤ dayOfEra) (h' : dayOfEra < 146097) :
    let year := (dayOfEra - dayOfEra / 1460 + dayOfEra / 36524 - dayOfEra / 146096) / 365
    0 ≤ year ∧ year < 400 ∧ 0 ≤ dayOfEra - (365 * year + year / 4 - year / 100) ∧
      dayOfEra - (365 * year + year / 4 - year / 100) ≤ 366 := by
  intro year
  have hyear : year =
    (dayOfEra - dayOfEra / 1460 + dayOfEra / 36524 - dayOfEra / 146096) / 365 := rfl
  clear_value year
  -- with the centuries fixed, what is left is linear
  have hdays : dayOfEra / 36524 = 0 ∨ dayOfEra / 36524 = 1 ∨ dayOfEra / 36524 = 2 ∨
    dayOfEra / 36524 = 3 ∨ dayOfEra / 36524 = 4 := by omega
  have hlast : dayOfEra / 146096 = 0 ∨ dayOfEra / 146096 = 1 := by omega
  have hcentury : year / 100 = 0 ∨ year / 100 = 1 ∨ year / 100 = 2 ∨ year / 100 = 3 := by omega
  obtain h0 | h0 | h0 | h0 | h0 := hdays <;> obtain h1 | h1 := hlast <;>
    obtain h2 | h2 | h2 | h2 := hcentury <;> omega

theorem fromMarch_pos {dayOfYear : ℤ} (year : ℤ) (h : 0 ≤ dayOfYear) :
    0 < (fromMarch year dayOfYear).2.1 ∧ 0 < (fromMarch year dayOfYear).2.2 := by
  simp only [fromMarch]
  refine ⟨?_, by omega⟩
  split_ifs <;> omega

/-- The date of a day by its era, the year in the era and the day of the year. -/
theorem exists_fromMarch (days : ℤ) : ∃ era year dayOfYear : ℤ,
    civilDate days = fromMarch (year + era * 400) dayOfYear ∧ 0 ≤ year ∧ year < 400 ∧
      0 ≤ dayOfYear ∧ dayOfYear ≤ 366 ∧
      days = era * 146097 + (year * 365 + year / 4 - year / 100 + dayOfYear) - 719468 := by
  have hpos : 0 ≤ (days + 719468) % 146097 := by omega
  have hlt : (days + 719468) % 146097 < 146097 := by omega
  have hbounds := yearOfEra_bounds hpos hlt
  refine ⟨_, _, _, rfl, hbounds.1, hbounds.2.1, hbounds.2.2.1, hbounds.2.2.2, ?_⟩
  omega

/-- **The day of the date of a day is that day.** -/
theorem dayNumber_civilDate (days : ℤ) :
    dayNumber (civilDate days).1 (civilDate days).2.1 (civilDate days).2.2 = days := by
  obtain ⟨era, year, dayOfYear, hdate, hyear, hyear', hday, hday', hdays⟩ := exists_fromMarch days
  have hdiv : (year + era * 400) / 400 = era := by omega
  have hmod : (year + era * 400) % 400 = year := by omega
  rw [hdate, dayNumber_fromMarch hday hday', hdiv, hmod, hdays]

theorem civilDate_injective : Function.Injective civilDate := by
  intro days days' h
  rw [← dayNumber_civilDate days, h, dayNumber_civilDate]

/-- Months and days are counted from one. -/
theorem civilDate_pos (days : ℤ) : 0 < (civilDate days).2.1 ∧ 0 < (civilDate days).2.2 := by
  obtain ⟨era, year, dayOfYear, hdate, -, -, hday, -⟩ := exists_fromMarch days
  rw [hdate]
  exact fromMarch_pos _ hday

end Calendar

end Cerbero
