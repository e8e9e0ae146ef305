import AdoptionRecords.Text.Decimal

/-! Dates of the proleptic Gregorian calendar, counted in days from 1970-01-01. A civil date is
its year, month and day; `civilOfDay` and `dayOfCivil` convert between the two views.
-/

namespace AdoptionRecords.Calendar

/-- A year, a month from 1 to 12 and a day of the month. -/
structure Civil where
  year : Int
  month : Int
  day : Int
  deriving DecidableEq, Repr

/-- The days before a month, counted in months from March. -/
def daysBeforeMonth (monthFromMarch : Int) : Int :=
  (153 * monthFromMarch + 2) / 5

/-- The number of days from 1970-01-01 to a civil date. Years are counted from March, so that a
leap day ends a year, in cycles of 400 years that hold 146097 days each.
-/
def dayOfCivil (c : Civil) : Int :=
  let year := if c.month ≤ 2 then c.year - 1 else c.year
  let yearOfCycle := year % 400
  let dayOfYear := daysBeforeMonth ((c.month + 9) % 12) + c.day - 1
  year / 400 * 146097 + (yearOfCycle * 365 + yearOfCycle / 4 - yearOfCycle / 100 + dayOfYear) -
    719468

/-- The civil date of a day number. A cycle of 400 years is four centuries of 36524 days and one
day more; a century is spans of four years with 1461 days each; a span is four years of 365 days
and one day more.
-/
def civilOfDay (n : Int) : Civil :=
  let dayOfCycle := (n + 719468) % 146097
  let century := min 3 (dayOfCycle / 36524)
  let dayOfCentury := dayOfCycle - century * 36524
  let span := dayOfCentury / 1461
  let dayOfSpan := dayOfCentury % 1461
  let yearOfSpan := min 3 (dayOfSpan / 365)
  let dayOfYear := dayOfSpan - yearOfSpan * 365
  let year := (n + 719468) / 146097 * 400 + century * 100 + span * 4 + yearOfSpan
  let monthFromMarch := (5 * dayOfYear + 2) / 153
  { year := if 10 ≤ monthFromMarch then year + 1 else year
    month := if 10 ≤ monthFromMarch then monthFromMarch - 9 else monthFromMarch + 3
    day := dayOfYear - daysBeforeMonth monthFromMarch + 1 }

/-- The parts of a year within its cycle are recovered by division. -/
theorem year_parts (cycle : Int) {century span rest : Int} (hc : 0 ≤ century ∧ century ≤ 3)
    (hs : 0 ≤ span ∧ span ≤ 24) (hr : 0 ≤ rest ∧ rest ≤ 3)
    : (cycle * 400 + century * 100 + span * 4 + rest) / 400 = cycle ∧
      (cycle * 400 + century * 100 + span * 4 + rest) % 400 = century * 100 + span * 4 + rest ∧
      (century * 100 + span * 4 + rest) / 4 = century * 25 + span ∧
      (century * 100 + span * 4 + rest) / 100 = century := by
  omega

/-- Every day number is the day number of its civil date, so distinct days have distinct civil
dates. Witness: the parts of the day number are bounded, and division recovers them.
-/
theorem dayOfCivil_civilOfDay (n : Int) : dayOfCivil (civilOfDay n) = n := by
  unfold dayOfCivil civilOfDay daysBeforeMonth
  generalize hc : (n + 719468) % 146097 = e
  generalize hk : (n + 719468) / 146097 = k
  simp only
  generalize hce : min 3 (e / 36524) = c
  generalize hf : e - c * 36524 = f
  generalize hs : f / 1461 = s
  generalize hg : f % 1461 = g
  generalize hr : min 3 (g / 365) = r
  generalize hd : g - r * 365 = d
  generalize hm : (5 * d + 2) / 153 = m
  -- The bounds of the parts, from the longest to the shortest.
  have he : 0 ≤ e ∧ e < 146097 := by omega
  have hcb : 0 ≤ c ∧ c ≤ 3 := by omega
  have hfb : 0 ≤ f ∧ f ≤ 36524 := by omega
  have hsb : 0 ≤ s ∧ s ≤ 24 := by omega
  have hrb : 0 ≤ r ∧ r ≤ 3 := by omega
  have hdb : 0 ≤ d ∧ d ≤ 365 := by omega
  have hmb : 0 ≤ m ∧ m ≤ 11 := by omega
  obtain ⟨y1, y2, y3, y4⟩ := year_parts k hcb hsb hrb
  -- January and February belong to the year that starts in the March before.
  by_cases late : 10 ≤ m
  · have h1 : m - 9 ≤ 2 := by omega
    have h2 : (m - 9 + 9) % 12 = m := by omega
    simp only [late, if_true, h1, h2, Int.add_sub_cancel, y1, y2, y3, y4]
    omega
  · have h1 : ¬ m + 3 ≤ 2 := by omega
    have h2 : (m + 3 + 9) % 12 = m := by omega
    simp only [late, if_false, h1, h2, y1, y2, y3, y4]
    omega

/-- The day number of -262143-01-01, the first date there is. -/
def firstDay : Int := -96465292

/-- The day number of +262142-12-31, the last date there is. -/
def lastDay : Int := 95026236

/-- The first date is the first of January of the year -262143. -/
theorem dayOfCivil_first : dayOfCivil ⟨-262143, 1, 1⟩ = firstDay := by decide

/-- The last date is the last of December of the year 262142. -/
theorem dayOfCivil_last : dayOfCivil ⟨262142, 12, 31⟩ = lastDay := by decide

/-- A date is a day number between the first and the last. -/
structure Date where
  day : Int
  first_le : firstDay ≤ day
  le_last : day ≤ lastDay
  deriving DecidableEq, Repr

namespace Date

/-- The date with a given day number, if there is one. -/
def ofDay? (n : Int) : Option Date :=
  if h : firstDay ≤ n ∧ n ≤ lastDay then some ⟨n, h.1, h.2⟩ else none

/-- The civil view of a date. -/
def civil (d : Date) : Civil :=
  civilOfDay d.day

/-- The date with a given civil view: the day number that the calendar turns back into it. -/
def ofCivil? (c : Civil) : Option Date :=
  if civilOfDay (dayOfCivil c) = c then ofDay? (dayOfCivil c) else none

/-- The date a number of days before another, if the calendar reaches that far. -/
def daysBefore? (d : Date) (days : Int) : Option Date :=
  ofDay? (d.day - days)

/-- The earliest day that a stored date can have, -4713-11-24. -/
def firstStored : Int := -2440588

/-- The store refuses dates before the earliest that it can hold. -/
def isStorable (d : Date) : Bool :=
  firstStored ≤ d.day

/-- Dates are ordered by their day numbers. -/
instance : LT Date where
  lt a b := a.day < b.day

instance (a b : Date) : Decidable (a < b) :=
  inferInstanceAs (Decidable (a.day < b.day))

/-- A date has exactly its own day number. -/
@[simp]
theorem ofDay?_day (d : Date) : ofDay? d.day = some d := by
  simp [ofDay?, d.first_le, d.le_last]

/-- A day number yields a date exactly when it lies between the first and the last. -/
theorem ofDay?_eq_some_iff {n : Int} {d : Date} : ofDay? n = some d ↔ d.day = n := by
  constructor
  · intro h
    unfold ofDay? at h
    split at h
    · cases h; rfl
    · cases h
  · rintro rfl
    exact ofDay?_day d

end Date

end AdoptionRecords.Calendar
