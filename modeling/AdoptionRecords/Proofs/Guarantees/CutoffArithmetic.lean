import AdoptionRecords.Retention.Policy
import AdoptionRecords.Proofs.Calendar.Gregorian
import AdoptionRecords.Proofs.Calendar.Spans

/-! Cutoffs for any number of days, also none, fewer than none and more than the calendar has. A cutoff is
the day so many days back in the calendar, or the instant so many days' seconds back, whenever there is
one, and none otherwise; how the span between is held does not matter.
-/

namespace AdoptionRecords

open Calendar

namespace Calendar

-----------------------------------------------------------------------------------------
-- Days back from a date
-----------------------------------------------------------------------------------------

/-- A cutoff counts days back from dates: it is the date with the day number so many less, which by the
rules of the calendar is so many dates earlier, and to which a span of so many days leads; none only
where the calendar ends. It falls as the days grow and rises with the present, days counted one after
another are counted at once, and the numbers of days that lead to a date have no gaps.
-/
structure CountsDays (cutoff : Date → Int → Option Date) : Prop where
  exact_day : ∀ {today days c}, cutoff today days = some c ↔ c.day = today.day - days
  none_iff
    : ∀ {today days},
        cutoff today days = none ↔ today.day - days < firstDay ∨ lastDay < today.day - days
  civil : ∀ {today days c}, cutoff today days = some c ↔ Civil.DaysBefore days c.civil today.civil
  span : ∀ {today days}, cutoff today days = (Span.ofDays? days).bind today.minus?
  falls
    : ∀ {today fewer days c c'},
        fewer < days → cutoff today fewer = some c → cutoff today days = some c' → c' < c
  rises
    : ∀ {today later days c c'},
        today < later → cutoff today days = some c → cutoff later days = some c' → c < c'
  adds
    : ∀ {today days more c},
        cutoff today days = some c → cutoff c more = cutoff today (days + more)
  zero : ∀ {today}, cutoff today 0 = some today
  interval
    : ∀ {today fewer days more},
        fewer ≤ days → days ≤ more → (cutoff today fewer).isSome = true →
          (cutoff today more).isSome = true → (cutoff today days).isSome = true

namespace Date

variable {today c : Date} {days : Int}

theorem daysBefore?_eq_none_iff
    : today.daysBefore? days = none ↔ today.day - days < firstDay ∨ lastDay < today.day - days := by
  unfold daysBefore? ofDay?
  split
  · next reached =>
      refine iff_of_false (Option.some_ne_none _) ?_
      omega
  · next beyond =>
      refine iff_of_true rfl ?_
      omega

theorem isSome_daysBefore?_iff
    : (today.daysBefore? days).isSome
      ↔ firstDay ≤ today.day - days ∧ today.day - days ≤ lastDay := by
  rw [Option.isSome_iff_ne_none, ne_eq, daysBefore?_eq_none_iff]
  omega

/-- Days back from a date are counted exactly. -/
theorem countsDays : CountsDays daysBefore? where
  exact_day := daysBefore?_eq_some_iff
  none_iff := daysBefore?_eq_none_iff
  civil := by
    intro today days c
    rw [daysBefore?_eq_some_iff]
    exact daysBefore_civilOfDay.symm
  span := daysBefore?_eq_minus? _ _
  falls := by
    intro today fewer days c c' less first second
    rw [daysBefore?_eq_some_iff] at first second
    show c'.day < c.day
    omega
  rises := by
    intro today later days c c' before first second
    rw [daysBefore?_eq_some_iff] at first second
    replace before : today.day < later.day := before
    show c.day < c'.day
    omega
  adds := by
    intro today days more c first
    rw [daysBefore?_eq_some_iff] at first
    unfold daysBefore?
    rw [first, Int.sub_sub]
  zero := by
    intro today
    rw [daysBefore?_eq_some_iff, Int.sub_zero]
  interval := by
    intro today fewer days more low high first second
    rw [isSome_daysBefore?_iff] at *
    omega

end Date

-----------------------------------------------------------------------------------------
-- Days back from an instant
-----------------------------------------------------------------------------------------

/-- A cutoff counts the seconds of days back from instants: it is the instant so many seconds before, with
the same part of a second gone; none only where the calendar ends. It falls as the days grow, and the
numbers of days that lead to an instant have no gaps. A leap second is forgotten once days were counted
from it. So cutoffs rise with the present outside leap seconds, and days counted one after another are
counted at once unless they lead to different sides of a leap second.
-/
structure CountsSeconds (cutoff : Instant → Int → Option Instant) : Prop where
  exact_second
    : ∀ {now days c}, cutoff now days = some c ↔ c.SecondsBefore (days * secondsPerDay) now
  exact_plain
    : ∀ {now days c}, now.isLeap = false →
        (cutoff now days = some c
          ↔ c.second = now.second - days * secondsPerDay ∧ c.nanos = now.nanos)
  none_iff
    : ∀ {now days}, now.isLeap = false →
        (cutoff now days = none ↔ ¬ CoveredSecond (now.second - days * secondsPerDay))
  span : ∀ {now days}, cutoff now days = (Span.ofDays? days).bind now.minus?
  falls
    : ∀ {now fewer days c c'},
        fewer < days → cutoff now fewer = some c → cutoff now days = some c' → c' < c
  rises
    : ∀ {now later days c c'}, now.isLeap = false → later.isLeap = false →
        now < later → cutoff now days = some c → cutoff later days = some c' → c < c'
  adds
    : ∀ {now days more c},
        now.isLeap = false ∨ days = 0 ∨ days.sign = (days + more).sign →
          cutoff now days = some c → cutoff c more = cutoff now (days + more)
  zero : ∀ {now}, cutoff now 0 = some now
  interval
    : ∀ {now fewer days more},
        fewer ≤ days → days ≤ more → (cutoff now fewer).isSome = true →
          (cutoff now more).isSome = true → (cutoff now days).isSome = true

namespace Instant

variable {now later c c' : Instant} {fewer days more : Int}

theorem isSome_of? {second : Int} {nanos : Nat} (within : nanos < nanosPerSecond)
    : (of? second nanos).isSome ↔ CoveredSecond second := by
  unfold of?
  split
  · next reached => exact iff_of_true rfl reached.1
  · next beyond => exact iff_of_false Bool.false_ne_true fun covered => beyond ⟨covered, .inl within⟩

/-- There is an instant some days back if the calendar reaches its second. -/
theorem isSome_daysBefore?_iff
    : (now.daysBefore? days).isSome
      ↔ CoveredSecond ((if now.isLeap ∧ 0 < days then now.second + 1 else now.second)
          - days * secondsPerDay) := by
  cases leap : now.isLeap with
  | false =>
      rw [daysBefore?_of_plain leap, isSome_of? (nanos_lt_of_plain leap)]
      simp only [Bool.false_eq_true, false_and, if_false]
  | true =>
      by_cases none : days = 0
      · subst none
        have covered := now.covered
        rw [if_neg (by omega), Int.zero_mul, Int.sub_zero]
        exact iff_of_true rfl covered
      · have within : now.nanos - nanosPerSecond < nanosPerSecond := by
          have bound := now.nanos_bounds.1
          unfold nanosPerSecond at *
          omega
        rw [daysBefore?_of_leap leap none, isSome_of? within]
        simp only [true_and]

/-- Of two instants that one by which fewer seconds have begun is the earlier one. -/
theorem lt_of_begun_lt (less : now.begun c < now.begun c') : c < c' := by
  have leap := c.nanos_bounds.2
  have leap' := c'.nanos_bounds.2
  show c.second < c'.second ∨ (c.second = c'.second ∧ c.nanos < c'.nanos)
  cases present : now.isLeap with
  | false =>
      rw [begun_of_plain present, begun_of_plain present] at less
      exact .inl less
  | true =>
      unfold begun at less
      simp only [present, leap, leap', true_and] at less
      split at less <;> split at less <;> omega

/-- Days counted one after another are counted at once, unless they lead across a leap second. -/
theorem daysBefore?_add
    (side : now.isLeap = false ∨ days = 0 ∨ days.sign = (days + more).sign)
    (first : now.daysBefore? days = some c)
    : c.daysBefore? more = now.daysBefore? (days + more) := by
  by_cases none : days = 0
  · subst none
    cases first
    rw [Int.zero_add]
  have total : (days + more) * secondsPerDay = days * secondsPerDay + more * secondsPerDay :=
    Int.add_mul _ _ _
  cases leap : now.isLeap with
  | false =>
      obtain ⟨plain, -⟩ := nanosecond_daysBefore? leap first
      rw [daysBefore?_of_plain leap, of?_eq_some_iff] at first
      obtain ⟨second, nanos⟩ := first
      rw [daysBefore?_of_plain leap, daysBefore?_of_plain plain, second, nanos, total,
        Int.sub_sub]
  | true =>
      rw [leap] at side
      have same : days.sign = (days + more).sign := by
        rcases side with plain | zero | same
        · cases plain
        · exact absurd zero none
        · exact same
      have some : days + more ≠ 0 := by
        intro zero
        rw [zero, Int.sign_zero, Int.sign_eq_zero_iff_zero] at same
        exact none same
      have forward : 0 < days ↔ 0 < days + more := by
        rw [← Int.sign_eq_one_iff_pos, same, Int.sign_eq_one_iff_pos]
      rw [daysBefore?_of_leap leap none, of?_eq_some_iff] at first
      obtain ⟨second, nanos⟩ := first
      have plain : c.isLeap = false := by
        have bound := now.nanos_bounds.1
        rw [← Bool.not_eq_true, c.nanos_bounds.2, nanos]
        unfold nanosPerSecond at *
        omega
      rw [daysBefore?_of_leap leap some, daysBefore?_of_plain plain, second, nanos, total,
        Int.sub_sub]
      simp only [forward]

/-- Days back from an instant are counted exactly. -/
theorem countsSeconds : CountsSeconds daysBefore? where
  exact_second := daysBefore?_eq_some_iff
  exact_plain := by
    intro now days c plain
    rw [daysBefore?_of_plain plain, of?_eq_some_iff]
  none_iff := by
    intro now days plain
    rw [daysBefore?_of_plain plain, ← isSome_of? (nanos_lt_of_plain plain),
      Option.not_isSome_iff_eq_none]
  span := daysBefore?_eq_minus? _ _
  falls := by
    intro now fewer days c c' less first second
    rw [daysBefore?_eq_some_iff] at first second
    apply lt_of_begun_lt
    rw [first.begun, second.begun]
    unfold secondsPerDay
    omega
  rises := by
    intro now later days c c' plain laterPlain before first second
    rw [daysBefore?_of_plain plain, of?_eq_some_iff] at first
    rw [daysBefore?_of_plain laterPlain, of?_eq_some_iff] at second
    show c.second < c'.second ∨ (c.second = c'.second ∧ c.nanos < c'.nanos)
    rw [first.1, first.2, second.1, second.2]
    replace before
        : now.second < later.second ∨ (now.second = later.second ∧ now.nanos < later.nanos) :=
      before
    omega
  adds := daysBefore?_add
  zero := rfl
  interval := by
    intro now fewer days more low high first second
    rw [isSome_daysBefore?_iff] at *
    cases leap : now.isLeap with
    | false =>
        simp only [leap, Bool.false_eq_true, false_and, if_false] at *
        unfold CoveredSecond secondsPerDay at *
        omega
    | true =>
        simp only [leap, true_and] at *
        unfold CoveredSecond secondsPerDay at *
        omega

end Instant

end Calendar

-----------------------------------------------------------------------------------------
-- The cutoffs of a policy
-----------------------------------------------------------------------------------------

/-- The cutoffs of a retention policy are exact for any number of days. The dates are those of the
calendar from the year -262143 to the year 262142. The cutoffs for requests and adopted pets are the
date so many days back whenever there is one, and otherwise none; the cutoff for the log is the instant
so many days' seconds back whenever there is one, and otherwise none.
-/
theorem Retention.Policy.cutoffs_exact
    : (∀ c : Civil, (∃ d : Date, d.civil = c) ↔ c.IsProper ∧ -262143 ≤ c.year ∧ c.year ≤ 262142)
      ∧ Function.Injective Date.civil
      ∧ ∀ p : Policy,
          CountsDays (fun today days => { p with requestDays := days }.requestCutoff today)
          ∧ CountsDays (fun today days => { p with adoptedPetDays := days }.adoptedPetCutoff today)
          ∧ CountsSeconds (fun now days => { p with logKeepDays := days }.logCutoff now) := by
  refine ⟨fun c => Date.exists_civil_iff, Date.civil_injective, fun p => ?_⟩
  exact ⟨Date.countsDays, Date.countsDays, Instant.countsSeconds⟩

/-- Thirty days before the last of March 2026 is the first, and no day is as many days ago as 64 bits
can count.
-/
example
    : ((Date.ofCivil? ⟨2026, 3, 31⟩).map Retention.Policy.standard.requestCutoff)
        = some (Date.ofCivil? ⟨2026, 3, 1⟩)
      ∧ ((Date.ofCivil? ⟨2026, 3, 31⟩).map (Date.daysBefore? · Text.Decimal.max64)) = some none := by
  decide

end AdoptionRecords
