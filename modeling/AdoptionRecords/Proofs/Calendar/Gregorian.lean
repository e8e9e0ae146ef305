import Mathlib.Logic.Function.Iterate
import Mathlib.Tactic.IntervalCases
import AdoptionRecords.Calendar.Date

/-! The calendar by its rules: which years are leap years, how long the months are, and which date comes
after which. Day numbers follow these rules. So each civil date that the rules admit has a day number
of its own, each day number is that of such a date, and day numbers count the days from one date to
another.
-/

namespace AdoptionRecords.Calendar

-----------------------------------------------------------------------------------------
-- The rules
-----------------------------------------------------------------------------------------

/-- Every fourth year is a leap year, of the years that end a century only every fourth. -/
def IsLeapYear (year : Int) : Prop :=
  year % 4 = 0 ∧ (year % 100 = 0 → year % 400 = 0)

instance (year : Int) : Decidable (IsLeapYear year) :=
  inferInstanceAs (Decidable (_ ∧ _))

/-- The days of a month, counted from January. -/
def monthLength (year month : Int) : Int :=
  if month = 2 then
    if IsLeapYear year then 29 else 28
  else if month = 4 ∨ month = 6 ∨ month = 9 ∨ month = 11 then 30
  else 31

namespace Civil

/-- A civil date of the calendar: its month is one of twelve, and its day one of the month. -/
structure IsProper (c : Civil) : Prop where
  month : 1 ≤ c.month ∧ c.month ≤ 12
  day : 1 ≤ c.day ∧ c.day ≤ monthLength c.year c.month

instance (c : Civil) : Decidable c.IsProper :=
  decidable_of_iff ((1 ≤ c.month ∧ c.month ≤ 12) ∧ 1 ≤ c.day ∧ c.day ≤ monthLength c.year c.month)
    ⟨fun ⟨month, day⟩ => ⟨month, day⟩, fun h => ⟨h.month, h.day⟩⟩

/-- The civil date after another: the next day of the month, or the first day of the next month or of
the next year.
-/
def next (c : Civil) : Civil :=
  if c.day < monthLength c.year c.month then ⟨c.year, c.month, c.day + 1⟩
  else if c.month < 12 then ⟨c.year, c.month + 1, 1⟩
  else ⟨c.year + 1, 1, 1⟩

/-- One civil date is a number of days before another, or if that is negative, so many days after it. -/
def DaysBefore (days : Int) (c later : Civil) : Prop :=
  if 0 ≤ days then next^[days.toNat] c = later else next^[(-days).toNat] later = c

instance (days : Int) (c later : Civil) : Decidable (DaysBefore days c later) :=
  inferInstanceAs (Decidable (ite _ _ _))

end Civil

-----------------------------------------------------------------------------------------
-- Years from March
-----------------------------------------------------------------------------------------

/-- The days before a year, counted from the March of the year 0. -/
def daysBeforeYear (year : Int) : Int :=
  365 * year + year / 4 - year / 100 + year / 400

/-- The year to which a civil date belongs if years start in March. -/
def Civil.yearFromMarch (c : Civil) : Int :=
  if c.month ≤ 2 then c.year - 1 else c.year

/-- The month of a civil date, counted in months from March. -/
def Civil.monthFromMarch (c : Civil) : Int :=
  (c.month + 9) % 12

variable {c other : Civil} {year month n days : Int}

/-- The day number of a civil date is told by years and months from March. -/
theorem dayOfCivil_eq (c : Civil)
    : dayOfCivil c
      = daysBeforeYear c.yearFromMarch + daysBeforeMonth c.monthFromMarch + c.day - 719469 := by
  unfold dayOfCivil daysBeforeYear Civil.yearFromMarch Civil.monthFromMarch
  dsimp only
  omega

/-- A year from March ends with the February of the year after it. -/
theorem daysBeforeYear_succ (year : Int)
    : daysBeforeYear (year + 1) = daysBeforeYear year + 337 + monthLength (year + 1) 2 := by
  unfold daysBeforeYear monthLength
  rw [if_pos rfl]
  by_cases leap : IsLeapYear (year + 1)
  · rw [if_pos leap]
    unfold IsLeapYear at leap
    omega
  · rw [if_neg leap]
    unfold IsLeapYear at leap
    omega

/-- Later years have more days before them. -/
theorem daysBeforeYear_mono {later : Int} (le : year ≤ later)
    : daysBeforeYear year ≤ daysBeforeYear later := by
  unfold daysBeforeYear
  omega

/-- February has 28 days, or 29. -/
theorem monthLength_february (year : Int)
    : 28 ≤ monthLength year 2 ∧ monthLength year 2 ≤ 29 := by
  unfold monthLength
  rw [if_pos rfl]
  split <;> omega

theorem monthLength_pos (year month : Int) : 1 ≤ monthLength year month := by
  unfold monthLength
  split
  · split <;> omega
  · split <;> omega

/-- A month other than February lasts until the next one starts. -/
theorem daysBeforeMonth_succ (low : 1 ≤ month) (high : month ≤ 12) (ne : month ≠ 2) (year : Int)
    : daysBeforeMonth ((month + 9) % 12 + 1)
      = daysBeforeMonth ((month + 9) % 12) + monthLength year month := by
  unfold monthLength
  rw [if_neg ne]
  interval_cases month <;> first | rfl | exact absurd rfl ne

-----------------------------------------------------------------------------------------
-- From one date to the next
-----------------------------------------------------------------------------------------

/-- The last day of a month is followed by the first of the next, that of February by the first of a
year from March.
-/
theorem dayOfCivil_nextMonth (low : 1 ≤ month) (high : month < 12) (year : Int)
    : dayOfCivil ⟨year, month + 1, 1⟩ = dayOfCivil ⟨year, month, monthLength year month⟩ + 1 := by
  have step (other : month ≠ 2) := daysBeforeMonth_succ low (Int.le_of_lt high) other year
  have february := daysBeforeYear_succ (year - 1)
  simp only [dayOfCivil_eq, Civil.yearFromMarch, Civil.monthFromMarch]
  rw [Int.sub_add_cancel] at february
  by_cases two : month = 2
  · subst two
    have start : daysBeforeMonth ((2 + 9) % 12) = 337 := rfl
    have march : daysBeforeMonth ((2 + 1 + 9) % 12) = 0 := rfl
    rw [if_neg (by omega), if_pos (by omega), start, march]
    omega
  · have follows : (month + 1 + 9) % 12 = (month + 9) % 12 + 1 := by omega
    have same : (month + 1 ≤ 2) = (month ≤ 2) := by
      rw [eq_iff_iff]
      omega
    rw [follows, step two]
    simp only [same]
    omega

/-- The last day of December is followed by the first of January. -/
theorem dayOfCivil_nextYear (year : Int)
    : dayOfCivil ⟨year + 1, 1, 1⟩ = dayOfCivil ⟨year, 12, 31⟩ + 1 := by
  have january : daysBeforeMonth ((1 + 9) % 12) = 306 := rfl
  have december : daysBeforeMonth ((12 + 9) % 12) = 275 := rfl
  simp only [dayOfCivil_eq, Civil.yearFromMarch, Civil.monthFromMarch, january, december]
  rw [if_pos (by omega), if_neg (by omega), Int.add_sub_cancel]
  omega

/-- The day number of the next date is the next one. -/
theorem dayOfCivil_next (proper : c.IsProper) : dayOfCivil c.next = dayOfCivil c + 1 := by
  obtain ⟨⟨low, high⟩, -, le⟩ := proper
  obtain ⟨year, month, day⟩ := c
  unfold Civil.next
  dsimp only at *
  split
  · simp only [dayOfCivil_eq, Civil.yearFromMarch, Civil.monthFromMarch]
    omega
  have last : day = monthLength year month := by omega
  rw [last]
  split
  · next before => exact dayOfCivil_nextMonth low before year
  · have december : month = 12 := by omega
    subst december
    exact dayOfCivil_nextYear year

theorem Civil.IsProper.next (proper : c.IsProper) : c.next.IsProper := by
  obtain ⟨⟨low, high⟩, first, -⟩ := proper
  have twelve : (1 : Int) ≤ 12 := by decide
  unfold Civil.next
  split
  · next within => exact ⟨⟨low, high⟩, Int.le_add_one first, within⟩
  split
  · next before => exact ⟨⟨Int.le_add_one low, before⟩, Int.le_refl 1, monthLength_pos _ _⟩
  · exact ⟨⟨Int.le_refl 1, twelve⟩, Int.le_refl 1, monthLength_pos _ _⟩

-----------------------------------------------------------------------------------------
-- Dates and day numbers
-----------------------------------------------------------------------------------------

/-- The days of a year from March that are gone on a civil date are less than those of the year, and
less than those before the month after, if there is one.
-/
theorem Civil.IsProper.dayOfYear_lt (proper : c.IsProper)
    : daysBeforeYear c.yearFromMarch + daysBeforeMonth c.monthFromMarch + c.day
        ≤ daysBeforeYear (c.yearFromMarch + 1)
      ∧ (c.monthFromMarch < 11 → daysBeforeMonth c.monthFromMarch + c.day
        ≤ daysBeforeMonth (c.monthFromMarch + 1)) := by
  obtain ⟨⟨low, high⟩, -, le⟩ := proper
  obtain ⟨year, month, day⟩ := c
  have step (other : month ≠ 2) := daysBeforeMonth_succ low high other year
  unfold Civil.yearFromMarch Civil.monthFromMarch
  rw [daysBeforeYear_succ]
  dsimp only at *
  by_cases two : month = 2
  · subst two
    have start : daysBeforeMonth ((2 + 9) % 12) = 337 := rfl
    rw [if_pos le_rfl, Int.sub_add_cancel, start]
    omega
  · have february := monthLength_february ((if month ≤ 2 then year - 1 else year) + 1)
    have bound : daysBeforeMonth ((month + 9) % 12 + 1) ≤ 337 := by
      unfold daysBeforeMonth
      omega
    rw [step two] at bound ⊢
    omega

/-- Civil dates of the calendar that have one day number belong to one year from March. -/
theorem Civil.IsProper.yearFromMarch_le (proper : c.IsProper) (otherProper : other.IsProper)
    (same : dayOfCivil c = dayOfCivil other)
    : c.yearFromMarch ≤ other.yearFromMarch := by
  have bound := otherProper.dayOfYear_lt.1
  have start : 0 ≤ daysBeforeMonth c.monthFromMarch := by
    unfold daysBeforeMonth Civil.monthFromMarch
    omega
  have first := proper.day.1
  rw [dayOfCivil_eq, dayOfCivil_eq] at same
  by_contra later
  have next : other.yearFromMarch + 1 ≤ c.yearFromMarch := Int.not_le.mp later
  have years := daysBeforeYear_mono next
  omega

/-- Of one year from March, they belong to one month. -/
theorem Civil.IsProper.monthFromMarch_le (proper : c.IsProper) (otherProper : other.IsProper)
    (same : dayOfCivil c = dayOfCivil other) (year : c.yearFromMarch = other.yearFromMarch)
    : c.monthFromMarch ≤ other.monthFromMarch := by
  have first := proper.day.1
  rw [dayOfCivil_eq, dayOfCivil_eq, year] at same
  by_contra later
  have most : c.monthFromMarch ≤ 11 := by
    unfold Civil.monthFromMarch
    omega
  have bound := otherProper.dayOfYear_lt.2 (by omega)
  have months : daysBeforeMonth (other.monthFromMarch + 1) ≤ daysBeforeMonth c.monthFromMarch := by
    unfold daysBeforeMonth
    omega
  omega

/-- Civil dates of the calendar have different day numbers. -/
theorem Civil.IsProper.eq_of_day (proper : c.IsProper) (otherProper : other.IsProper)
    (same : dayOfCivil c = dayOfCivil other)
    : c = other := by
  have year : c.yearFromMarch = other.yearFromMarch :=
    Int.le_antisymm (proper.yearFromMarch_le otherProper same)
      (otherProper.yearFromMarch_le proper same.symm)
  have month : c.monthFromMarch = other.monthFromMarch :=
    Int.le_antisymm (proper.monthFromMarch_le otherProper same year)
      (otherProper.monthFromMarch_le proper same.symm year.symm)
  rw [dayOfCivil_eq, dayOfCivil_eq, year, month] at same
  obtain ⟨⟨low, high⟩, -⟩ := proper
  obtain ⟨⟨otherLow, otherHigh⟩, -⟩ := otherProper
  unfold Civil.monthFromMarch Civil.yearFromMarch at *
  obtain ⟨year₁, month₁, day₁⟩ := c
  obtain ⟨year₂, month₂, day₂⟩ := other
  dsimp only at *
  have months : month₁ = month₂ := by omega
  subst months
  congr 1
  · split at year <;> omega
  · omega

/-- The year after the last of a span of four years is a leap year, unless that span ends a century; then
it is one only after the last century of a cycle.
-/
theorem isLeapYear_of_span {cycle century span : Int} (spans : 0 ≤ span ∧ span ≤ 24)
    (last : span = 24 → century = 3)
    : IsLeapYear (cycle * 400 + century * 100 + span * 4 + 3 + 1) := by
  unfold IsLeapYear
  omega

/-- A day of the year from March is one of its month, a 366th day only before March of a leap year. -/
theorem day_le_monthLength {dayOfYear : Int} (low : 0 ≤ dayOfYear) (high : dayOfYear ≤ 365)
    (leap : dayOfYear = 365 → IsLeapYear (year + 1))
    : let monthFromMarch := (5 * dayOfYear + 2) / 153
      dayOfYear - daysBeforeMonth monthFromMarch + 1
        ≤ monthLength (if 10 ≤ monthFromMarch then year + 1 else year)
            (if 10 ≤ monthFromMarch then monthFromMarch - 9 else monthFromMarch + 3) := by
  generalize part : (5 * dayOfYear + 2) / 153 = fromMarch
  dsimp only
  by_cases february : fromMarch = 11
  · subst february
    have start : daysBeforeMonth 11 = 337 := rfl
    have length := monthLength_february (year + 1)
    rw [if_pos (by decide), if_pos (by decide), start]
    show _ ≤ monthLength (year + 1) 2
    by_cases last : dayOfYear = 365
    · rw [monthLength, if_pos rfl, if_pos (leap last)]
      omega
    · omega
  · generalize months : (if 10 ≤ fromMarch then fromMarch - 9 else fromMarch + 3) = month
    have back : (month + 9) % 12 = fromMarch := by
      split at months <;> omega
    have step : daysBeforeMonth ((month + 9) % 12 + 1) = _ :=
      daysBeforeMonth_succ (by omega) (by omega) (by omega)
        (if 10 ≤ fromMarch then year + 1 else year)
    rw [back] at step
    have within : dayOfYear + 1 ≤ daysBeforeMonth (fromMarch + 1) := by
      unfold daysBeforeMonth
      omega
    omega

/-- The civil date of a day number is one of the calendar. -/
theorem civilOfDay_isProper (n : Int) : (civilOfDay n).IsProper := by
  unfold civilOfDay
  generalize hc : (n + 719468) % 146097 = dayOfCycle
  generalize (n + 719468) / 146097 = cycle
  simp only
  generalize hce : min 3 (dayOfCycle / 36524) = century
  generalize hs : (dayOfCycle - century * 36524) / 1461 = span
  generalize hg : (dayOfCycle - century * 36524) % 1461 = dayOfSpan
  generalize hr : min 3 (dayOfSpan / 365) = yearOfSpan
  generalize hd : dayOfSpan - yearOfSpan * 365 = dayOfYear
  have centuries : 0 ≤ century ∧ century ≤ 3 := by omega
  have spans : 0 ≤ span ∧ span ≤ 24 := by omega
  have low : 0 ≤ dayOfYear := by omega
  have high : dayOfYear ≤ 365 := by omega
  constructor
  · dsimp only
    omega
  · refine ⟨?_, day_le_monthLength low high fun last => ?_⟩
    · unfold daysBeforeMonth
      dsimp only
      omega
    · have third : yearOfSpan = 3 := by omega
      rw [third]
      exact isLeapYear_of_span spans (by omega)

/-- Every civil date of the calendar is that of its day number. -/
theorem civilOfDay_dayOfCivil (proper : c.IsProper) : civilOfDay (dayOfCivil c) = c :=
  (civilOfDay_isProper _).eq_of_day proper (dayOfCivil_civilOfDay _)

/-- The civil date of the next day number is the next one. -/
theorem civilOfDay_succ (n : Int) : civilOfDay (n + 1) = (civilOfDay n).next := by
  have proper := civilOfDay_isProper n
  have day : dayOfCivil (civilOfDay n).next = n + 1 := by
    rw [dayOfCivil_next proper, dayOfCivil_civilOfDay]
  rw [← day, civilOfDay_dayOfCivil proper.next]

theorem civilOfDay_inj {m : Int} : civilOfDay n = civilOfDay m ↔ n = m := by
  constructor
  · intro same
    rw [← dayOfCivil_civilOfDay n, same, dayOfCivil_civilOfDay]
  · exact congrArg civilOfDay

/-- Days later the civil date is as many dates further, by induction on the days. -/
theorem civilOfDay_add (n : Int) (k : Nat)
    : civilOfDay (n + k) = Civil.next^[k] (civilOfDay n) := by
  induction k with
  | zero => rw [Int.natCast_zero, Int.add_zero, Function.iterate_zero, id]
  | succ k ih =>
      rw [Function.iterate_succ_apply', ← ih, ← civilOfDay_succ, Int.natCast_succ, Int.add_assoc]

/-- Day numbers count the days from one civil date to another. -/
theorem daysBefore_civilOfDay {m : Int}
    : Civil.DaysBefore days (civilOfDay n) (civilOfDay m) ↔ n = m - days := by
  unfold Civil.DaysBefore
  split
  · next forward =>
      rw [← civilOfDay_add, civilOfDay_inj]
      omega
  · next back =>
      rw [← civilOfDay_add, civilOfDay_inj]
      omega

-----------------------------------------------------------------------------------------
-- The dates that there are
-----------------------------------------------------------------------------------------

/-- A civil date of the calendar is not before the first day of its year, and before that of the next. -/
theorem Civil.IsProper.day_of_year (proper : c.IsProper)
    : dayOfCivil ⟨c.year, 1, 1⟩ ≤ dayOfCivil c ∧ dayOfCivil c < dayOfCivil ⟨c.year + 1, 1, 1⟩ := by
  obtain ⟨year_bound, month_bound⟩ := proper.dayOfYear_lt
  obtain ⟨⟨low, high⟩, first, -⟩ := proper
  have january : daysBeforeMonth ((1 + 9) % 12) = 306 := rfl
  have whole := daysBeforeYear_succ (c.year - 1)
  have february := monthLength_february c.year
  rw [Int.sub_add_cancel] at whole
  simp only [dayOfCivil_eq, Civil.yearFromMarch, Civil.monthFromMarch, january,
    if_pos (by decide : (1 : Int) ≤ 2), Int.add_sub_cancel] at *
  by_cases early : c.month ≤ 2
  · have fromMarch : (c.month + 9) % 12 = c.month + 9 := by omega
    rw [if_pos early, Int.sub_add_cancel, fromMarch] at year_bound
    rw [if_pos early, fromMarch]
    unfold daysBeforeMonth at *
    omega
  · have fromMarch : (c.month + 9) % 12 = c.month - 3 := by omega
    rw [fromMarch] at month_bound
    rw [if_neg early, fromMarch]
    unfold daysBeforeMonth at *
    omega

/-- Years start in their order. -/
theorem dayOfCivil_firstOfYear_mono {later : Int} (le : year ≤ later)
    : dayOfCivil ⟨year, 1, 1⟩ ≤ dayOfCivil ⟨later, 1, 1⟩ := by
  have years : daysBeforeYear (year - 1) ≤ daysBeforeYear (later - 1) :=
    daysBeforeYear_mono (by omega)
  simp only [dayOfCivil_eq, Civil.yearFromMarch, Civil.monthFromMarch,
    if_pos (by decide : (1 : Int) ≤ 2)]
  omega

/-- The civil dates of the calendar whose day numbers are in reach are those of the years in reach. -/
theorem Civil.IsProper.reached_iff (proper : c.IsProper)
    : (firstDay ≤ dayOfCivil c ∧ dayOfCivil c ≤ lastDay)
      ↔ -262143 ≤ c.year ∧ c.year ≤ 262142 := by
  obtain ⟨low, high⟩ := proper.day_of_year
  have first := dayOfCivil_first
  have last : dayOfCivil ⟨262143, 1, 1⟩ = lastDay + 1 := by
    rw [← dayOfCivil_last]
    exact dayOfCivil_nextYear 262142
  constructor
  · rintro ⟨notBefore, notAfter⟩
    constructor
    · by_contra early
      have before : c.year + 1 ≤ -262143 := by omega
      have start := dayOfCivil_firstOfYear_mono before
      omega
    · by_contra late
      have behind : 262143 ≤ c.year := by omega
      have start := dayOfCivil_firstOfYear_mono behind
      omega
  · rintro ⟨early, late⟩
    have start := dayOfCivil_firstOfYear_mono early
    have ahead : c.year + 1 ≤ 262143 := by omega
    have stop := dayOfCivil_firstOfYear_mono ahead
    omega

/-- Dates with one civil date are one date. -/
theorem Date.civil_injective : Function.Injective Date.civil := by
  intro d d' same
  have days : d.day = d'.day := civilOfDay_inj.mp same
  cases d
  cases d'
  cases days
  rfl

/-- The dates are the civil dates of the calendar from the year -262143 to the year 262142. -/
theorem Date.exists_civil_iff
    : (∃ d : Date, d.civil = c) ↔ c.IsProper ∧ -262143 ≤ c.year ∧ c.year ≤ 262142 := by
  constructor
  · rintro ⟨d, rfl⟩
    have proper : d.civil.IsProper := civilOfDay_isProper d.day
    have day : dayOfCivil d.civil = d.day := dayOfCivil_civilOfDay d.day
    refine ⟨proper, proper.reached_iff.mp ?_⟩
    rw [day]
    exact ⟨d.first_le, d.le_last⟩
  · rintro ⟨proper, years⟩
    obtain ⟨first, last⟩ := proper.reached_iff.mpr years
    exact ⟨⟨dayOfCivil c, first, last⟩, civilOfDay_dayOfCivil proper⟩

end AdoptionRecords.Calendar
