import Cerbero.Lib.CalendarYears
import Cerbero.Normalizer.Rfc3164Timestamp
import Mathlib.Data.List.MinMax

/-!
# Normalizer/NearestYear — the year of a year-less time

`resolve_rfc3164_nearest_year` tries the local year of ingestion and the years next to it.  An
occurrence in any other year is farther away than one of those tried (`exists_nearer`), so the
result is the nearest of all, except that the years 10000 and -10000 are not tried because the
`time` crate does not have them (**`resolveRfc3164NearestYear_nearest`**).
-/

namespace Cerbero

namespace Normalizer

open Calendar

/-! ## Occurrences of a date -/

def YearlessTime.secondOfDay (time : YearlessTime) : ℤ :=
  time.hour * 3600 + time.minute * 60 + time.second

/-- The instant of a year-less time in a year of the calendar. -/
def occurrence (policy : SourceTimePolicy) (time : YearlessTime) (year : ℤ) : Option ℤ :=
  if isCivilDate year time.month time.day then
    some (dayNumber year time.month time.day * 86400 + time.secondOfDay - policy.offset)
  else none

/-- A year the `time` crate has. -/
def Represented (year : ℤ) : Prop := -9999 ≤ year ∧ year ≤ 9999

instance (year : ℤ) : Decidable (Represented year) := inferInstanceAs (Decidable (_ ∧ _))

/-- The local year of ingestion. -/
def localYear (ingest : Timestamp) (policy : SourceTimePolicy) : ℤ :=
  (civilDate ((ingest.seconds + policy.offset) / 86400)).1

/-- The instant is read as the month, the day and the time of day at the offset. -/
def ReadsAs (policy : SourceTimePolicy) (time : YearlessTime) (instant : ℤ) : Prop :=
  (∃ year, civilDate ((instant + policy.offset) / 86400) = (year, ↑time.month, ↑time.day)) ∧
    (instant + policy.offset) % 86400 = time.secondOfDay

/-- What is asked of the inference, for the occurrences in some years: the result is the time that
was written, no occurrence is closer and none as close is earlier; and there is a result unless the
date is missing in the local year and the years next to it. -/
def PicksNearest (among : ℤ → Prop) (value : String) (ingest : Timestamp)
    (policy : SourceTimePolicy) : Prop :=
  ∀ time, Rfc3164Read value time →
    (∀ r, resolveRfc3164NearestYear value ingest policy = .ok r →
      ReadsAs policy time r.seconds ∧ ∀ year instant, among year →
        occurrence policy time year = some instant →
        (r.seconds - ingest.seconds).natAbs < (instant - ingest.seconds).natAbs ∨
          (r.seconds - ingest.seconds).natAbs = (instant - ingest.seconds).natAbs ∧
            r.seconds ≤ instant) ∧
    ∀ e, resolveRfc3164NearestYear value ingest policy = .error e →
      ∀ year, among year → localYear ingest policy - 1 ≤ year → year ≤ localYear ingest policy + 1 →
        occurrence policy time year = none

/-! ## Days of one date -/

theorem marchStart_le {year year' : ℤ} (h : year ≤ year') :
    marchStart year + 365 * (year' - year) ≤ marchStart year' ∧
      marchStart year' ≤ marchStart year + 366 * (year' - year) := by
  induction year', h using Int.leInduction with
  | base => omega
  | succ year' _ ih =>
    have := marchStart_succ year'
    omega

/-- A date that is not the leap day is in every year. -/
theorem isCivilDate_of_short {year year' month day : ℤ} (h : isCivilDate year month day = true)
    (hshort : marchDay month day ≤ 364) : isCivilDate year' month day = true := by
  obtain ⟨hmonth, hpos, -⟩ := (isCivilDate_iff _ _ _).1 h
  have := marchStart_succ (marchYear year' month)
  exact (isCivilDate_iff _ _ _).2 ⟨hmonth, hpos, by omega⟩

/-- January and February come last in a year that starts in March. -/
theorem le_two_iff {month day : ℤ} (h : (fromMarch 0 (marchDay month day)).2 = (month, day))
    (hpos : 0 ≤ marchDay month day) (hle : marchDay month day ≤ 365) : month ≤ 2 ↔ 306 ≤ marchDay month day := by
  have hmonth := congrArg Prod.fst h
  simp only [fromMarch] at hmonth
  split_ifs at hmonth <;> omega

/-- Two leap days are four years apart. -/
theorem leap_gap {year year' : ℤ} (h : marchStart year + 365 < marchStart (year + 1))
    (h' : marchStart year' + 365 < marchStart (year' + 1)) (hlt : year < year') :
    year + 4 ≤ year' := by
  have hfour (y : ℤ) (hy : marchStart y + 365 < marchStart (y + 1)) : (y + 1) % 4 = 0 := by
    simp only [marchStart] at hy
    omega
  have := hfour year h
  have := hfour year' h'
  omega

theorem dayNumber_le {year year' : ℤ} (h : year ≤ year') (month day : ℤ) :
    dayNumber year month day + 365 * (year' - year) ≤ dayNumber year' month day := by
  have hmarch : marchYear year' month - marchYear year month = year' - year := by
    simp only [marchYear]
    split_ifs <;> omega
  have := (marchStart_le (show marchYear year month ≤ marchYear year' month by omega)).1
  rw [dayNumber_eq, dayNumber_eq]
  omega

/-- One day is nearer to another one than a third is, whatever the time of day: the middle of both
lies beyond it. -/
def Nearer (target near far : ℤ) : Prop :=
  near < far ∧ 2 * target + 2 ≤ near + far ∨ far < near ∧ near + far ≤ 2 * target - 2

section

variable {year month day : ℤ} (target : ℤ)

/-- The date in the next year comes later. -/
theorem lt_dayNumber_succ (hyear : isCivilDate year month day = true) :
    target < dayNumber ((civilDate target).1 + 1) month day := by
  obtain ⟨-, hhigh⟩ := civilYear_bounds target
  obtain ⟨hmonth, hpos, hlt⟩ := (isCivilDate_iff _ _ _).1 hyear
  have hlength := marchStart_succ (marchYear year month)
  have htwo := le_two_iff hmonth hpos (by omega)
  generalize (civilDate target).1 = base at *
  have hnext := marchStart_succ base
  rw [dayNumber_eq, marchYear]
  split_ifs with hlate
  · rw [Int.add_sub_cancel]
    omega
  · omega

/-- The date in the year before came earlier. -/
theorem dayNumber_pred_lt (hyear : isCivilDate ((civilDate target).1 - 1) month day = true) :
    dayNumber ((civilDate target).1 - 1) month day < target := by
  obtain ⟨hlow, -⟩ := civilYear_bounds target
  obtain ⟨hmonth, hpos, hlt⟩ := (isCivilDate_iff _ _ _).1 hyear
  have hlength := marchStart_succ (marchYear ((civilDate target).1 - 1) month)
  have htwo := le_two_iff hmonth hpos (by omega)
  generalize (civilDate target).1 = base at *
  rw [dayNumber_eq]
  rw [marchYear] at hlt ⊢
  split_ifs at hlt ⊢ with hlate
  · rw [Int.sub_add_cancel] at hlt
    omega
  · omega

variable {target}

/-- A date of every year is nearer in a year that is tried than in one that is not. -/
theorem exists_nearer_of_short (hbase : Represented (civilDate target).1)
    (hyear : isCivilDate year month day = true)
    (hfar : year < (civilDate target).1 - 1 ∨ (civilDate target).1 + 1 < year)
    (hshort : marchDay month day ≤ 364) :
    ∃ near, Represented near ∧ (civilDate target).1 - 1 ≤ near ∧ near ≤ (civilDate target).1 + 1 ∧
      isCivilDate near month day = true ∧
      Nearer target (dayNumber near month day) (dayNumber year month day) := by
  have hcivil (near : ℤ) : isCivilDate near month day = true := isCivilDate_of_short hyear hshort
  have hnext := lt_dayNumber_succ target hyear
  have hprevious := dayNumber_pred_lt target (hcivil _)
  obtain ⟨hlow, hhigh⟩ := civilYear_bounds target
  obtain ⟨hmonth, hpos, -⟩ := (isCivilDate_iff _ _ _).1 hyear
  have htwo := le_two_iff hmonth hpos (by omega)
  obtain ⟨hmin, hmax⟩ := hbase
  generalize (civilDate target).1 = base at *
  rcases hfar with hbefore | hafter
  · by_cases hedge : base = -9999
    · -- the year before is not tried, the local one is near enough
      subst hedge
      have hgap := dayNumber_le (show year ≤ -10001 by omega) month day
      have hdays : dayNumber (-9999) month day + dayNumber (-10001) month day ≤ 2 * target - 2 := by
        rw [dayNumber_eq, dayNumber_eq]
        simp only [marchYear, marchStart] at hlow ⊢
        split_ifs <;> omega
      have hlt := dayNumber_le (show (-10001 : ℤ) ≤ -9999 by omega) month day
      refine ⟨-9999, by decide, by omega, by omega, hcivil _, .inr ⟨?_, ?_⟩⟩ <;> omega
    · have hgap := dayNumber_le (show year ≤ base - 1 by omega) month day
      refine ⟨base - 1, ⟨by omega, by omega⟩, le_rfl, by omega, hcivil _, .inr ⟨?_, ?_⟩⟩ <;> omega
  · by_cases hedge : base = 9999
    · subst hedge
      have hgap := dayNumber_le (show 10001 ≤ year by omega) month day
      have hdays : 2 * target + 2 ≤ dayNumber 9999 month day + dayNumber 10001 month day := by
        rw [dayNumber_eq, dayNumber_eq]
        simp only [marchYear, marchStart] at hhigh ⊢
        split_ifs <;> omega
      have hlt := dayNumber_le (show (9999 : ℤ) ≤ 10001 by omega) month day
      refine ⟨9999, by decide, by omega, by omega, hcivil _, .inl ⟨?_, ?_⟩⟩ <;> omega
    · have hgap := dayNumber_le (show base + 1 ≤ year by omega) month day
      refine ⟨base + 1, ⟨by omega, by omega⟩, by omega, le_rfl, hcivil _, .inl ⟨?_, ?_⟩⟩ <;> omega

/-- Of two leap days the one in a year that is tried is nearer. -/
theorem nearer_of_leap {tried : ℤ} (hyear : isCivilDate year month day = true)
    (hfar : year < (civilDate target).1 - 1 ∨ (civilDate target).1 + 1 < year)
    (htried : isCivilDate tried month day = true) (hleft : (civilDate target).1 - 1 ≤ tried)
    (hright : tried ≤ (civilDate target).1 + 1) (hleap : 364 < marchDay month day) :
    Nearer target (dayNumber tried month day) (dayNumber year month day) := by
  obtain ⟨hlow, hhigh⟩ := civilYear_bounds target
  obtain ⟨hmonth, hpos, hlt⟩ := (isCivilDate_iff _ _ _).1 hyear
  obtain ⟨-, -, hlt'⟩ := (isCivilDate_iff _ _ _).1 htried
  have hlength := marchStart_succ (marchYear year month)
  have htwo := (le_two_iff hmonth hpos (by omega)).2 (by omega)
  generalize (civilDate target).1 = base at *
  rw [dayNumber_eq, dayNumber_eq]
  simp only [marchYear, if_pos htwo] at hlt hlt' hlength ⊢
  rcases hfar with hbefore | hafter
  · have hgap := leap_gap (by omega) (by omega) (show year - 1 < tried - 1 by omega)
    have hfirst := marchStart_le (show year - 1 ≤ base - 4 by omega)
    have hsecond := marchStart_le (show tried - 1 ≤ base by omega)
    have hthree := marchStart_le (show base - 4 ≤ base - 1 by omega)
    have hone := marchStart_le (show base - 1 ≤ base by omega)
    have hlt := marchStart_le (show year - 1 ≤ tried - 1 by omega)
    exact .inr ⟨by omega, by omega⟩
  · have hgap := leap_gap (by omega) (by omega) (show tried - 1 < year - 1 by omega)
    have hfirst := marchStart_le (show base + 2 ≤ year - 1 by omega)
    have hsecond := marchStart_le (show base - 2 ≤ tried - 1 by omega)
    have htwo := marchStart_le (show base ≤ base + 2 by omega)
    have hone := marchStart_le (show base - 2 ≤ base by omega)
    have hlt := marchStart_le (show tried - 1 ≤ year - 1 by omega)
    exact .inl ⟨by omega, by omega⟩

/-- **A year that is not tried has one nearer that is**, if the date is in any that is. -/
theorem exists_nearer {tried : ℤ} (hbase : Represented (civilDate target).1)
    (hyear : isCivilDate year month day = true)
    (hfar : year < (civilDate target).1 - 1 ∨ (civilDate target).1 + 1 < year)
    (htried : isCivilDate tried month day = true) (hrepresented : Represented tried)
    (hleft : (civilDate target).1 - 1 ≤ tried) (hright : tried ≤ (civilDate target).1 + 1) :
    ∃ near, Represented near ∧ (civilDate target).1 - 1 ≤ near ∧ near ≤ (civilDate target).1 + 1 ∧
      isCivilDate near month day = true ∧
      Nearer target (dayNumber near month day) (dayNumber year month day) := by
  by_cases hshort : marchDay month day ≤ 364
  · exact exists_nearer_of_short hbase hyear hfar hshort
  · exact ⟨tried, hrepresented, hleft, hright, htried,
      nearer_of_leap hyear hfar htried hleft hright (Int.lt_of_not_ge hshort)⟩

end

/-! ## The loop -/

/-- How far an instant is from ingestion. -/
def distance (ingest : Timestamp) (instant : ℤ) : ℕ := (instant - ingest.seconds).natAbs

section

variable {policy : SourceTimePolicy} {time : YearlessTime} {ingest : Timestamp}

/-- The occurrence in a year the `time` crate has. -/
def represented (policy : SourceTimePolicy) (time : YearlessTime) (year : ℤ) : Option ℤ :=
  if Represented year then occurrence policy time year else none

theorem instantIn_eq (hour : time.hour ≤ 23) (minute : time.minute ≤ 59) (second : time.second ≤ 59)
    (year : ℤ) : instantIn year time policy = .ok (represented policy time year) := by
  unfold instantIn represented occurrence
  by_cases hyear : Represented year
  · by_cases hdate : isCivilDate year time.month time.day
    · have hnot : ¬ (year < -9999 ∨ 9999 < year ∨
          isCivilDate year time.month time.day = false) := by
        rw [hdate]
        have := hyear.1
        have := hyear.2
        simp
        omega
      rw [if_neg hnot, if_neg (by omega), if_pos hyear, if_pos hdate, YearlessTime.secondOfDay]
      congr 2
      omega
    · rw [if_pos (.inr (.inr (Bool.eq_false_iff.2 hdate))), if_pos hyear, if_neg hdate]
  · have hout : year < -9999 ∨ 9999 < year := by
      by_contra h
      exact hyear ⟨by omega, by omega⟩
    rw [if_neg hyear, if_pos (hout.imp_right .inl)]

/-- **The loop keeps the first of the nearest occurrences.** -/
theorem nearestYear_eq (hour : time.hour ≤ 23) (minute : time.minute ≤ 59)
    (second : time.second ≤ 59) (years : List ℤ) (best : Option ℤ) :
    nearestYear ingest.seconds time policy years best =
      .ok ((years.filterMap (represented policy time)).foldl
        (List.argAux fun i j => distance ingest i < distance ingest j) best) := by
  induction years generalizing best with
  | nil => rfl
  | cons year years ih =>
    rw [nearestYear, instantIn_eq hour minute second, ok_bind]
    match hyear : represented policy time year with
    | none =>
      rw [List.filterMap_cons_none hyear]
      exact ih best
    | some instant =>
      rw [List.filterMap_cons_some hyear, List.foldl_cons]
      dsimp only
      rw [ih, ih]
      match best with
      | none => rfl
      | some current =>
        have hkeep : List.argAux (fun i j => distance ingest i < distance ingest j) (some current)
            instant = if distance ingest instant < distance ingest current then some instant
              else some current := rfl
        have hcheck : (some current).all (fun current =>
            (instant - ingest.seconds).natAbs < (current - ingest.seconds).natAbs) = true ↔
              distance ingest instant < distance ingest current := decide_eq_true_iff
        rw [hkeep]
        by_cases hnear : distance ingest instant < distance ingest current
        · rw [if_pos (hcheck.2 hnear), if_pos hnear]
        · rw [if_neg fun h => hnear (hcheck.1 h), if_neg hnear]

/-- What is tried. -/
def triedInstants (policy : SourceTimePolicy) (time : YearlessTime) (ingest : Timestamp) : List ℤ :=
  [localYear ingest policy - 1, localYear ingest policy, localYear ingest policy + 1].filterMap
    (represented policy time)

/-- **The result is the first of the nearest instants that are tried.** -/
theorem resolveRfc3164NearestYear_eq {value : String} (hread : Rfc3164Read value time)
    (hmin : minUnixTimestamp ≤ ingest.seconds) (hmax : ingest.seconds ≤ maxUnixTimestamp) :
    resolveRfc3164NearestYear value ingest policy =
      match (triedInstants policy time ingest).argmin (distance ingest) with
      | some instant => .ok ⟨instant, 0⟩
      | none => .error "RFC3164 timestamp cannot be resolved under the source time policy" := by
  have hrange : ¬ (ingest.seconds < minUnixTimestamp ∨ maxUnixTimestamp < ingest.seconds) := by omega
  obtain ⟨parts, -, hsays⟩ := id hread
  have hloop : nearestYear ingest.seconds time policy [localYear ingest policy - 1,
      localYear ingest policy, localYear ingest policy + 1] none =
        .ok ((triedInstants policy time ingest).argmin (distance ingest)) :=
    nearestYear_eq hsays.hour_le hsays.minute_le hsays.second_le _ none
  rw [resolveRfc3164NearestYear, parseRfc3164Components_of_read hread, ok_bind]
  simp only [if_neg hrange]
  change (nearestYear ingest.seconds time policy [localYear ingest policy - 1,
    localYear ingest policy, localYear ingest policy + 1] none >>= _) = _
  rw [hloop, ok_bind]
  rfl

/-! ## The nearest occurrence -/

theorem occurrence_eq_some {year instant : ℤ} :
    occurrence policy time year = some instant ↔ isCivilDate year time.month time.day = true ∧
      instant = dayNumber year time.month time.day * 86400 + time.secondOfDay - policy.offset := by
  unfold occurrence
  by_cases h : isCivilDate year time.month time.day = true
  · rw [if_pos h, Option.some_inj, eq_comm]
    exact ⟨fun heq => ⟨h, heq⟩, And.right⟩
  · rw [if_neg h]
    exact iff_of_false (fun heq => nomatch heq) fun heq => h heq.1

theorem mem_triedInstants {instant : ℤ} : instant ∈ triedInstants policy time ingest ↔
    ∃ year, Represented year ∧ localYear ingest policy - 1 ≤ year ∧
      year ≤ localYear ingest policy + 1 ∧ occurrence policy time year = some instant := by
  have hrepresented (year : ℤ) : represented policy time year = some instant ↔
      Represented year ∧ occurrence policy time year = some instant := by
    unfold represented
    by_cases h : Represented year
    · rw [if_pos h]
      exact ⟨fun heq => ⟨h, heq⟩, And.right⟩
    · rw [if_neg h]
      exact iff_of_false (fun heq => nomatch heq) fun heq => h heq.1
  simp only [triedInstants, List.mem_filterMap, hrepresented, List.mem_cons, List.not_mem_nil,
    or_false]
  constructor
  · rintro ⟨year, hyear, hrep, hsome⟩
    exact ⟨year, hrep, by omega, by omega, hsome⟩
  · rintro ⟨year, hrep, hleft, hright, hsome⟩
    exact ⟨year, by omega, hrep, hsome⟩

/-- Occurrences follow each other as the years do. -/
theorem occurrence_lt {year year' instant instant' : ℤ} (h : year < year')
    (hyear : occurrence policy time year = some instant)
    (hyear' : occurrence policy time year' = some instant') : instant < instant' := by
  obtain ⟨-, rfl⟩ := occurrence_eq_some.1 hyear
  obtain ⟨-, rfl⟩ := occurrence_eq_some.1 hyear'
  have := dayNumber_le (Int.le_of_lt h) time.month time.day
  omega

theorem pairwise_triedInstants : (triedInstants policy time ingest).Pairwise (· < ·) := by
  have hsome {year instant : ℤ} (h : represented policy time year = some instant) :
      occurrence policy time year = some instant := by
    unfold represented at h
    split_ifs at h
    exact h
  refine List.Pairwise.filterMap _ (R := (· < ·)) ?_ ?_
  · intro year year' h instant hyear instant' hyear'
    exact occurrence_lt h (hsome hyear) (hsome hyear')
  · refine .cons (fun year hyear => ?_) (.cons (fun year hyear => ?_) (List.pairwise_singleton _ _))
    · simp only [List.mem_cons, List.not_mem_nil, or_false] at hyear
      omega
    · simp only [List.mem_singleton] at hyear
      omega

/-- **The first of the nearest is the earliest of them.** -/
theorem argmin_triedInstants {instant instant' : ℤ}
    (h : (triedInstants policy time ingest).argmin (distance ingest) = some instant)
    (hmem : instant' ∈ triedInstants policy time ingest) :
    distance ingest instant < distance ingest instant' ∨
      distance ingest instant = distance ingest instant' ∧ instant ≤ instant' := by
  obtain ⟨hfirst, hle, hindex⟩ := List.argmin_eq_some_iff.1 h
  rcases Nat.lt_or_eq_of_le (hle instant' hmem) with hlt | heq
  · exact .inl hlt
  · refine .inr ⟨heq, ?_⟩
    have hbefore := hindex instant' hmem heq.ge
    rcases Nat.lt_or_eq_of_le hbefore with hlt | hsame
    · have hsorted : (triedInstants policy time ingest).Pairwise (· < ·) := pairwise_triedInstants
      have hpairs := List.pairwise_iff_getElem.1 hsorted _ _
        (List.idxOf_lt_length_of_mem hfirst) (List.idxOf_lt_length_of_mem hmem) hlt
      rw [List.getElem_idxOf, List.getElem_idxOf] at hpairs
      exact Int.le_of_lt hpairs
    · exact ((List.idxOf_inj hfirst).1 hsame).le

/-- An occurrence is read as what it is an occurrence of. -/
theorem readsAs_occurrence (hour : time.hour ≤ 23) (minute : time.minute ≤ 59)
    (second : time.second ≤ 59) {year instant : ℤ}
    (h : occurrence policy time year = some instant) : ReadsAs policy time instant := by
  obtain ⟨hdate, rfl⟩ := occurrence_eq_some.1 h
  have hlow : 0 ≤ time.secondOfDay := by
    rw [YearlessTime.secondOfDay]
    omega
  have hhigh : time.secondOfDay < 86400 := by
    rw [YearlessTime.secondOfDay]
    omega
  refine ⟨⟨year, ?_⟩, by omega⟩
  rw [Int.sub_add_cancel, Int.add_comm, Int.add_mul_ediv_right _ _ (by decide),
    Int.ediv_eq_zero_of_lt hlow hhigh, Int.zero_add]
  exact beq_iff_eq.1 hdate

/-- A nearer day is nearer at the same time of day. -/
theorem distance_lt_of_nearer (hour : time.hour ≤ 23) (minute : time.minute ≤ 59)
    (second : time.second ≤ 59) {near far : ℤ}
    (h : Nearer ((ingest.seconds + policy.offset) / 86400) near far) :
    distance ingest (near * 86400 + time.secondOfDay - policy.offset) <
      distance ingest (far * 86400 + time.secondOfDay - policy.offset) := by
  have hlow : 0 ≤ time.secondOfDay := by
    rw [YearlessTime.secondOfDay]
    omega
  have hhigh : time.secondOfDay < 86400 := by
    rw [YearlessTime.secondOfDay]
    omega
  unfold distance
  rcases h with ⟨hlt, hsum⟩ | ⟨hlt, hsum⟩ <;> omega

/-- The local year is one the `time` crate has. -/
theorem represented_localYear (hmin : minUnixTimestamp ≤ ingest.seconds + policy.offset)
    (hmax : ingest.seconds + policy.offset ≤ maxUnixTimestamp) :
    Represented (localYear ingest policy) := by
  obtain ⟨hlow, hhigh⟩ := civilYear_bounds ((ingest.seconds + policy.offset) / 86400)
  simp only [minUnixTimestamp] at hmin
  simp only [maxUnixTimestamp] at hmax
  rw [localYear]
  generalize (civilDate ((ingest.seconds + policy.offset) / 86400)).1 = year at *
  constructor
  · by_contra hsmall
    have hend := (marchStart_le (show year ≤ -10000 by omega)).1
    simp only [marchStart] at hend hhigh
    omega
  · by_contra hlarge
    have hend := (marchStart_le (show 9999 ≤ year - 1 by omega)).1
    simp only [marchStart] at hend hlow
    omega

/-- A year that is tried if the `time` crate has it. -/
def Tried (ingest : Timestamp) (policy : SourceTimePolicy) (year : ℤ) : Prop :=
  localYear ingest policy - 1 ≤ year ∧ year ≤ localYear ingest policy + 1

/-- **The year is the nearest one**, for every accepted time, every time of ingestion the `time`
crate has in UTC and at the offset, and all years but a neighbour of the local year that the crate
does not have. -/
theorem resolveRfc3164NearestYear_nearest (value : String)
    (hmin : minUnixTimestamp ≤ ingest.seconds) (hmax : ingest.seconds ≤ maxUnixTimestamp)
    (hlocalMin : minUnixTimestamp ≤ ingest.seconds + policy.offset)
    (hlocalMax : ingest.seconds + policy.offset ≤ maxUnixTimestamp) :
    PicksNearest (fun year => Tried ingest policy year → Represented year) value ingest policy := by
  intro time hread
  obtain ⟨parts, -, hsays⟩ := id hread
  have hbase := represented_localYear hlocalMin hlocalMax
  rw [resolveRfc3164NearestYear_eq hread hmin hmax]
  match hargmin : (triedInstants policy time ingest).argmin (distance ingest) with
  | none =>
    refine ⟨fun r hr => (nomatch hr), fun e _ year hamong hleft hright => ?_⟩
    have hnil := List.argmin_eq_none.1 hargmin
    match hsome : occurrence policy time year with
    | none => rfl
    | some instant =>
      have hmem : instant ∈ triedInstants policy time ingest :=
        mem_triedInstants.2 ⟨year, hamong ⟨hleft, hright⟩, hleft, hright, hsome⟩
      rw [hnil] at hmem
      exact nomatch hmem
  | some instant =>
    refine ⟨fun r hr => ?_, fun e he => (nomatch he)⟩
    obtain rfl := Except.ok.inj hr
    obtain ⟨tried, hrepresented, hleft, hright, htried⟩ :=
      mem_triedInstants.1 (List.argmin_mem hargmin)
    refine ⟨readsAs_occurrence hsays.hour_le hsays.minute_le hsays.second_le htried, ?_⟩
    intro year instant' hamong hyear
    by_cases hnear : Tried ingest policy year
    · exact argmin_triedInstants hargmin
        (mem_triedInstants.2 ⟨year, hamong hnear, hnear.1, hnear.2, hyear⟩)
    · obtain ⟨hcivil, rfl⟩ := occurrence_eq_some.1 hyear
      have hfar : year < localYear ingest policy - 1 ∨ localYear ingest policy + 1 < year := by
        by_contra h
        exact hnear ⟨by omega, by omega⟩
      obtain ⟨near, hnearRepresented, hnearLeft, hnearRight, hnearCivil, hnearer⟩ :=
        exists_nearer hbase hcivil hfar (occurrence_eq_some.1 htried).1 hrepresented hleft hright
      have hless := distance_lt_of_nearer hsays.hour_le hsays.minute_le hsays.second_le hnearer
      have hbest := argmin_triedInstants hargmin (mem_triedInstants.2
        ⟨near, hnearRepresented, hnearLeft, hnearRight, occurrence_eq_some.2 ⟨hnearCivil, rfl⟩⟩)
      refine .inl (Nat.lt_of_le_of_lt ?_ hless)
      exact hbest.elim Nat.le_of_lt fun h => h.1.le

end

/-! ### The last year -/

/-- A policy in UTC. -/
def utcPolicy : SourceTimePolicy := ⟨0, "+00:00"⟩

/-- New Year is read in the year that has just begun. -/
theorem resolveRfc3164NearestYear_nearest_newYear :
    PicksNearest (fun year => Tried ⟨1767225605, 0⟩ utcPolicy year → Represented year)
      "Jan  1 00:00:00" ⟨1767225605, 0⟩ utcPolicy :=
  resolveRfc3164NearestYear_nearest "Jan  1 00:00:00" (by decide) (by decide) (by decide) (by decide)

theorem read_newYear : Rfc3164Read "Jan  1 00:00:00" ⟨1, 1, 0, 0, 0⟩ := by
  have hzero : ReadableNumber ['0', '0'] 0 := .inl (.mk rfl rfl)
  exact ⟨⟨"Jan".toList, [' ', '1'], ['0', '0'], ['0', '0'], ['0', '0']⟩, by decide,
    ⟨⟨0, "Jan", rfl, rfl, rfl⟩, .inr (.after (by decide) (by decide) rfl), hzero, hzero, hzero,
      by decide, by decide, by decide, by decide, by decide⟩⟩

theorem read_leapDay : Rfc3164Read "Feb 29 00:00:00" ⟨2, 29, 0, 0, 0⟩ := by
  have hzero : ReadableNumber ['0', '0'] 0 := .inl (.mk rfl rfl)
  exact ⟨⟨"Feb".toList, ['2', '9'], ['0', '0'], ['0', '0'], ['0', '0']⟩, by decide,
    ⟨⟨1, "Feb", rfl, rfl, rfl⟩, .inl (.mk rfl rfl), hzero, hzero, hzero,
      by decide, by decide, by decide, by decide, by decide⟩⟩

/-- In the last second of the year 9999, New Year is read in that year although the next one is a
second away, and the leap day of the next year is not found. -/
theorem not_picksNearest_lastSecond :
    (validateRfc3164Timestamp "Jan  1 00:00:00" = .ok () ∧
      ¬ PicksNearest (fun _ => True) "Jan  1 00:00:00" ⟨253402300799, 0⟩ utcPolicy) ∧
    validateRfc3164Timestamp "Feb 29 00:00:00" = .ok () ∧
      ¬ PicksNearest (fun _ => True) "Feb 29 00:00:00" ⟨253402300799, 0⟩ utcPolicy := by
  refine ⟨⟨validateRfc3164Timestamp_eq_ok.2 ⟨_, read_newYear⟩, fun h => ?_⟩,
    validateRfc3164Timestamp_eq_ok.2 ⟨_, read_leapDay⟩, fun h => ?_⟩
  · have hresult : resolveRfc3164NearestYear "Jan  1 00:00:00" ⟨253402300799, 0⟩ utcPolicy =
        .ok ⟨253370764800, 0⟩ := by decide +kernel
    have hnearest := ((h _ read_newYear).1 _ hresult).2 10000 253402300800 trivial (by decide)
    exact absurd hnearest (by decide)
  · have hresult : resolveRfc3164NearestYear "Feb 29 00:00:00" ⟨253402300799, 0⟩ utcPolicy =
        .error "RFC3164 timestamp cannot be resolved under the source time policy" := by
      decide +kernel
    have hmissing := (h _ read_leapDay).2 _ hresult 10000 trivial (by decide) (by decide)
    exact absurd hmissing (by decide)

end Normalizer

end Cerbero
