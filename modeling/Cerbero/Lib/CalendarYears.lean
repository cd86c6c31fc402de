import Cerbero.Lib.Calendar

/-!
# Lib/CalendarYears — where the years of the calendar begin

In years that start in March the place of a date is the same every year (`marchDay`), and only the
leap day falls off the end of some (`isCivilDate_iff`).  So the days of one date are as far apart as
the years are, and the year of a day is known from the first of January (`civilYear_bounds`).
-/

namespace Cerbero

namespace Calendar

/-- The first of March of a year. -/
def marchStart (year : ℤ) : ℤ := 365 * year + year / 4 - year / 100 + year / 400 - 719468

/-- The year that starts in March a date belongs to. -/
def marchYear (year month : ℤ) : ℤ := if month ≤ 2 then year - 1 else year

/-- The day of such a year, counted from the first of March. -/
def marchDay (month day : ℤ) : ℤ :=
  (153 * (if month ≤ 2 then month + 9 else month - 3) + 2) / 5 + day - 1

theorem dayNumber_eq (year month day : ℤ) :
    dayNumber year month day = marchStart (marchYear year month) + marchDay month day := by
  by_cases hmonth : month ≤ 2
  · simp only [dayNumber, marchDay, marchYear, marchStart, if_pos hmonth]
    omega
  · simp only [dayNumber, marchDay, marchYear, marchStart, if_neg hmonth]
    omega

/-- A year that starts in March has 365 or 366 days. -/
theorem marchStart_succ (year : ℤ) :
    marchStart year + 365 ≤ marchStart (year + 1) ∧
      marchStart (year + 1) ≤ marchStart year + 366 := by
  simp only [marchStart]
  omega

theorem marchStart_mono {year year' : ℤ} (h : year ≤ year') :
    marchStart year ≤ marchStart year' := by
  simp only [marchStart]
  omega

/-- A day of an era of 400 years comes before the year after its own. -/
theorem dayOfEra_lt {dayOfEra : ℤ} (h : 0 ≤ dayOfEra) (h' : dayOfEra < 146097) :
    let year := (dayOfEra - dayOfEra / 1460 + dayOfEra / 36524 - dayOfEra / 146096) / 365
    dayOfEra < 365 * (year + 1) + (year + 1) / 4 - (year + 1) / 100 + (year + 1) / 400 := by
  intro year
  have hyear : year =
    (dayOfEra - dayOfEra / 1460 + dayOfEra / 36524 - dayOfEra / 146096) / 365 := rfl
  clear_value year
  -- with the centuries fixed, what is left is linear
  have hdays : dayOfEra / 36524 = 0 ∨ dayOfEra / 36524 = 1 ∨ dayOfEra / 36524 = 2 ∨
    dayOfEra / 36524 = 3 ∨ dayOfEra / 36524 = 4 := by omega
  have hlast : dayOfEra / 146096 = 0 ∨ dayOfEra / 146096 = 1 := by omega
  have hcentury : (year + 1) / 100 = 0 ∨ (year + 1) / 100 = 1 ∨ (year + 1) / 100 = 2 ∨
    (year + 1) / 100 = 3 ∨ (year + 1) / 100 = 4 := by omega
  have hera : (year + 1) / 400 = 0 ∨ (year + 1) / 400 = 1 := by omega
  rcases hcentury with h2 | h2 | h2 | h2 | h2 <;> rcases hera with h3 | h3 <;>
    rw [h2, h3] <;> rcases hlast with h1 | h1 <;>
    rcases hdays with h0 | h0 | h0 | h0 | h0 <;> rw [h0, h1] at hyear <;> omega

theorem marchStart_add_era (year era : ℤ) :
    marchStart (year + era * 400) = marchStart year + era * 146097 := by
  have hfour : (year + era * 400) / 4 = year / 4 + era * 100 := by omega
  have hcentury : (year + era * 400) / 100 = year / 100 + era * 4 := by omega
  have hera : (year + era * 400) / 400 = year / 400 + era := by omega
  simp only [marchStart, hfour, hcentury, hera]
  omega

/-- **A day by the year that starts in March it belongs to.** -/
theorem exists_marchStart (days : ℤ) : ∃ year dayOfYear : ℤ,
    civilDate days = fromMarch year dayOfYear ∧ 0 ≤ dayOfYear ∧
      days = marchStart year + dayOfYear ∧ days < marchStart (year + 1) := by
  have hpos : 0 ≤ (days + 719468) % 146097 := by omega
  have hlt : (days + 719468) % 146097 < 146097 := by omega
  obtain ⟨hyear, hyear', hday, -⟩ := yearOfEra_bounds hpos hlt
  have hnext := dayOfEra_lt hpos hlt
  have hsplit := Int.mul_ediv_add_emod (days + 719468) 146097
  refine ⟨_, _, rfl, hday, ?_⟩
  generalize ((days + 719468) % 146097 - (days + 719468) % 146097 / 1460 +
    (days + 719468) % 146097 / 36524 - (days + 719468) % 146097 / 146096) / 365 = year at *
  generalize (days + 719468) / 146097 = era at *
  generalize (days + 719468) % 146097 = dayOfEra at *
  have hsucc : year + era * 400 + 1 = year + 1 + era * 400 := by omega
  have hzero : year / 400 = 0 := by omega
  dsimp only at hnext
  rw [hsucc, marchStart_add_era, marchStart_add_era]
  simp only [marchStart, hzero]
  constructor <;> omega

/-- The year that starts in March is known from its days. -/
theorem marchYear_unique {year year' dayOfYear dayOfYear' : ℤ}
    (h : marchStart year + dayOfYear = marchStart year' + dayOfYear') (hpos : 0 ≤ dayOfYear)
    (hlt : marchStart year + dayOfYear < marchStart (year + 1)) (hpos' : 0 ≤ dayOfYear')
    (hlt' : marchStart year' + dayOfYear' < marchStart (year' + 1)) :
    year = year' ∧ dayOfYear = dayOfYear' := by
  have hyear : year = year' := by
    rcases Int.lt_trichotomy year year' with hless | heq | hmore
    · have := marchStart_mono (Int.add_one_le_of_lt hless)
      omega
    · exact heq
    · have := marchStart_mono (Int.add_one_le_of_lt hmore)
      omega
  subst hyear
  exact ⟨rfl, by omega⟩

theorem fromMarch_fst (year dayOfYear : ℤ) : (fromMarch year dayOfYear).1 =
    year + if (fromMarch year dayOfYear).2.1 ≤ 2 then 1 else 0 := rfl

theorem fromMarch_snd (year year' dayOfYear : ℤ) :
    (fromMarch year dayOfYear).2 = (fromMarch year' dayOfYear).2 := rfl

/-- **A date is in the calendar** if its place in the year gives back its month and day, and the
year is long enough. -/
theorem isCivilDate_iff (year month day : ℤ) : isCivilDate year month day = true ↔
    (fromMarch 0 (marchDay month day)).2 = (month, day) ∧ 0 ≤ marchDay month day ∧
      marchStart (marchYear year month) + marchDay month day <
        marchStart (marchYear year month + 1) := by
  rw [isCivilDate, beq_iff_eq, dayNumber_eq]
  constructor
  · intro h
    obtain ⟨year', dayOfYear, hdate, hpos, hdays, hlt⟩ :=
      exists_marchStart (marchStart (marchYear year month) + marchDay month day)
    rw [hdate] at h
    have hmonth : (fromMarch year' dayOfYear).2 = (month, day) := congrArg Prod.snd h
    have hyear : year' = marchYear year month := by
      have hfst := (congrArg Prod.fst h).symm
      rw [fromMarch_fst, hmonth] at hfst
      rw [marchYear]
      dsimp only at hfst
      split_ifs at hfst ⊢ <;> omega
    subst hyear
    obtain rfl : marchDay month day = dayOfYear := by omega
    exact ⟨hmonth, hpos, hlt⟩
  · rintro ⟨hmonth, hpos, hlt⟩
    obtain ⟨year', dayOfYear, hdate, hpos', hdays, hlt'⟩ :=
      exists_marchStart (marchStart (marchYear year month) + marchDay month day)
    obtain ⟨rfl, rfl⟩ := marchYear_unique hdays hpos hlt hpos' (hdays ▸ hlt')
    have hfst := fromMarch_fst (marchYear year month) (marchDay month day)
    rw [fromMarch_snd _ 0, hmonth] at hfst
    rw [hdate]
    refine Prod.ext ?_ hmonth
    rw [hfst, marchYear]
    dsimp only
    split_ifs <;> omega

/-- **A day of a year lies between the firsts of January.** -/
theorem civilYear_bounds (days : ℤ) :
    marchStart ((civilDate days).1 - 1) + 306 ≤ days ∧
      days < marchStart (civilDate days).1 + 306 := by
  obtain ⟨year, dayOfYear, hdate, hpos, hdays, hlt⟩ := exists_marchStart days
  have hsucc := marchStart_succ year
  have hprevious := marchStart_succ (year - 1)
  rw [Int.sub_add_cancel] at hprevious
  rw [hdate]
  simp only [fromMarch]
  by_cases hlate : (5 * dayOfYear + 2) / 153 < 10
  · rw [if_pos hlate, if_neg (by omega), Int.add_zero]
    omega
  · rw [if_neg hlate, if_pos (by omega), Int.add_sub_cancel]
    omega

end Calendar

end Cerbero
