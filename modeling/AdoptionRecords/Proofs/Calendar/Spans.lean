import AdoptionRecords.Proofs.Retention.Cutoffs

/-! Counting days back through a span of time. A span is counted in seconds, of which 64 bits can hold
fewer than there are thousandths; a date less a span is moved by the whole days of the span, which 32
bits must hold, and an instant by its time of day and by the days that are left over. None of these
bounds is met before the calendar ends, so counting days directly comes to the same.
-/

namespace AdoptionRecords.Calendar

open Text.Decimal

-----------------------------------------------------------------------------------------
-- Spans
-----------------------------------------------------------------------------------------

/-- The seconds of the longest span, whose milliseconds 64 bits hold. -/
def longestSpan : Int := max64 / 1000

/-- A span of time in whole seconds, backward if they are negative. -/
structure Span where
  seconds : Int
  within : -longestSpan ≤ seconds ∧ seconds ≤ longestSpan

namespace Span

/-- The span of a number of seconds, if it is not too long. -/
def ofSeconds? (seconds : Int) : Option Span :=
  if within : -longestSpan ≤ seconds ∧ seconds ≤ longestSpan then some ⟨seconds, within⟩ else none

/-- The span of a number of days, if 64 bits hold its seconds and it is not too long. -/
def ofDays? (days : Int) : Option Span :=
  (within? min64 max64 (days * secondsPerDay)).bind ofSeconds?

/-- The whole days of a span. -/
def days (s : Span) : Int :=
  s.seconds.tdiv secondsPerDay

variable {s : Span} {seconds count : Int}

theorem ofSeconds?_eq_some_iff : ofSeconds? seconds = some s ↔ s.seconds = seconds := by
  constructor
  · intro h
    unfold ofSeconds? at h
    split at h
    · cases h
      rfl
    · cases h
  · rintro rfl
    exact dif_pos s.within

/-- The seconds of a span of days are those of the days; other limits than that of a span are not met. -/
theorem ofDays?_eq_some_iff : ofDays? count = some s ↔ s.seconds = count * secondsPerDay := by
  unfold ofDays? within?
  split
  · exact ofSeconds?_eq_some_iff
  · next overflow =>
      refine iff_of_false (Option.some_ne_none s).symm fun same => overflow ?_
      obtain ⟨low, high⟩ := s.within
      rw [← same]
      unfold longestSpan min64 max64 at *
      omega

/-- A span of so many seconds as so many days have is so many days long. -/
theorem days_of_seconds (h : s.seconds = count * secondsPerDay) : s.days = count := by
  unfold days
  rw [h]
  exact Int.mul_tdiv_cancel _ (by decide)

end Span

-----------------------------------------------------------------------------------------
-- Dates less a span
-----------------------------------------------------------------------------------------

namespace Date

variable {d c : Date} {s : Span}

/-- A date less a span, moved by the whole days of the span if 32 bits hold them and the calendar
reaches that far.
-/
def minus? (d : Date) (s : Span) : Option Date :=
  (within? min32 max32 (-s.days)).bind fun days => ofDay? (d.day + days)

/-- No two dates are further apart than the ends of the calendar. -/
theorem days_between (c d : Date)
    : firstDay - lastDay ≤ d.day - c.day ∧ d.day - c.day ≤ lastDay - firstDay := by
  have first := d.first_le
  have last := d.le_last
  have first' := c.first_le
  have last' := c.le_last
  omega

/-- The calendar ends before 32 bits do not hold the days between two of its dates. -/
theorem minus?_eq_some_iff : d.minus? s = some c ↔ c.day = d.day - s.days := by
  unfold minus? within?
  split
  · exact ofDay?_eq_some_iff
  · next overflow =>
      refine iff_of_false (Option.some_ne_none c).symm fun same => overflow ?_
      have apart := c.days_between d
      unfold firstDay lastDay min32 max32 at *
      omega

theorem daysBefore?_eq_some_iff {days : Int} : d.daysBefore? days = some c ↔ c.day = d.day - days :=
  ofDay?_eq_some_iff

/-- Days back from a date are a span back from it. -/
theorem daysBefore?_eq_minus? (d : Date) (days : Int)
    : d.daysBefore? days = (Span.ofDays? days).bind d.minus? := by
  ext c
  rw [daysBefore?_eq_some_iff, Option.bind_eq_some_iff]
  constructor
  · intro day
    have bounds : -longestSpan ≤ days * secondsPerDay ∧ days * secondsPerDay ≤ longestSpan := by
      have apart := c.days_between d
      unfold longestSpan max64 secondsPerDay firstDay lastDay at *
      omega
    let span : Span := ⟨days * secondsPerDay, bounds⟩
    have whole : span.days = days := Span.days_of_seconds rfl
    refine ⟨span, Span.ofDays?_eq_some_iff.mpr rfl, minus?_eq_some_iff.mpr ?_⟩
    rw [whole]
    exact day
  · rintro ⟨span, found, moved⟩
    rw [Span.ofDays?_eq_some_iff] at found
    rw [minus?_eq_some_iff, Span.days_of_seconds found] at moved
    exact moved

end Date

-----------------------------------------------------------------------------------------
-- Instants less a span
-----------------------------------------------------------------------------------------

namespace Instant

variable {i j : Instant} {s : Span} {second : Int} {nanos : Nat}

/-- The instant in a second that is counted from the start of a date: the time of day is what remains of
the seconds beside whole days, and the date is moved by these.
-/
def ofDate? (date : Date) (second : Int) (nanos : Nat) : Option Instant := do
  let time := second % secondsPerDay
  let span ← Span.ofSeconds? (time - second)
  let day ← date.minus? span
  of? (day.day * secondsPerDay + time) nanos

/-- An instant less a span. A span of no length keeps a leap second; any other leads out of it, back
from the second after it and forward from the one before.
-/
def minus? (i : Instant) (s : Span) : Option Instant :=
  if i.isLeap then
    if s.seconds = 0 then some i
    else
      let second := if 0 < s.seconds then (i.secondOfDay : Int) + 1 else i.secondOfDay
      ofDate? i.date (second - s.seconds) (i.nanos - nanosPerSecond)
  else ofDate? i.date (i.secondOfDay - s.seconds) i.nanos

/-- A second is counted from the start of a date as it is from 1970, by the days between. -/
theorem ofDate?_eq (date : Date) (second : Int) (nanos : Nat)
    : ofDate? date second nanos = of? (date.day * secondsPerDay + second) nanos := by
  ext j
  simp only [ofDate?, Option.bind_eq_bind, Option.bind_eq_some_iff]
  have whole : second % secondsPerDay - second = -(second / secondsPerDay) * secondsPerDay := by
    unfold secondsPerDay
    omega
  constructor
  · rintro ⟨span, found, day, moved, reached⟩
    rw [Span.ofSeconds?_eq_some_iff, whole] at found
    rw [Date.minus?_eq_some_iff, Span.days_of_seconds found] at moved
    have same : day.day * secondsPerDay + second % secondsPerDay
        = date.day * secondsPerDay + second := by
      rw [moved]
      unfold secondsPerDay at *
      omega
    rw [← same]
    exact reached
  · intro reached
    obtain ⟨at_second, -⟩ := second_of? reached
    have covered := j.covered
    have first := date.first_le
    have last := date.le_last
    have bounds : -longestSpan ≤ second % secondsPerDay - second
        ∧ second % secondsPerDay - second ≤ longestSpan := by
      unfold CoveredSecond at covered
      unfold longestSpan max64 secondsPerDay firstDay lastDay at *
      omega
    refine ⟨⟨_, bounds⟩, Span.ofSeconds?_eq_some_iff.mpr rfl, j.date,
      Date.minus?_eq_some_iff.mpr ?_, ?_⟩
    · rw [Span.days_of_seconds whole]
      show j.second / secondsPerDay = _
      rw [at_second]
      unfold secondsPerDay
      omega
    · have same : j.date.day * secondsPerDay + second % secondsPerDay
          = date.day * secondsPerDay + second := by
        show j.second / secondsPerDay * secondsPerDay + _ = _
        rw [at_second]
        unfold secondsPerDay
        omega
      rw [same]
      exact reached

/-- The second of an instant is counted from the start of its date. -/
theorem date_add_secondOfDay (i : Instant)
    : i.date.day * secondsPerDay + i.secondOfDay = i.second := by
  unfold date secondOfDay secondsPerDay
  dsimp only
  omega

theorem of?_eq_some_iff : of? second nanos = some i ↔ i.second = second ∧ i.nanos = nanos := by
  constructor
  · exact second_of?
  · rintro ⟨rfl, rfl⟩
    exact dif_pos ⟨i.covered, i.fraction⟩

/-- Days back from a leap second start at the second after it, days forward at the one before. -/
theorem daysBefore?_of_leap {days : Int} (leap : i.isLeap = true) (some : days ≠ 0)
    : i.daysBefore? days
      = of? ((if 0 < days then i.second + 1 else i.second) - days * secondsPerDay)
          (i.nanos - nanosPerSecond) := by
  unfold daysBefore?
  rw [if_neg some, if_pos leap]

/-- Days back from an instant are a span back from it. -/
theorem minus?_of_days {days : Int} (h : s.seconds = days * secondsPerDay)
    : i.minus? s = i.daysBefore? days := by
  have start := i.date_add_secondOfDay
  unfold minus?
  split
  · next leap =>
      split
      · next none =>
          have zero : days = 0 := by
            unfold secondsPerDay at h
            omega
          rw [zero]
          rfl
      · next some =>
          have days_ne : days ≠ 0 := by
            rintro rfl
            exact some h
          have forward : 0 < s.seconds ↔ 0 < days := by
            unfold secondsPerDay at h
            omega
          rw [ofDate?_eq, daysBefore?_of_leap leap days_ne]
          simp only [h]
          congr 1
          split <;> omega
  · next plain =>
      rw [ofDate?_eq, daysBefore?_of_plain (Bool.eq_false_iff.mpr plain), h, ← start]
      congr 1
      omega

/-- Days back lead by so many seconds, but for the second that a leap second counts. -/
theorem second_daysBefore? {days : Int} (h : i.daysBefore? days = some j)
    : j.second = i.second - days * secondsPerDay
      ∨ j.second = i.second + 1 - days * secondsPerDay := by
  cases leap : i.isLeap with
  | false =>
      rw [daysBefore?_of_plain leap, of?_eq_some_iff] at h
      exact .inl h.1
  | true =>
      by_cases none : days = 0
      · subst none
        cases h
        exact .inl (by omega)
      · rw [daysBefore?_of_leap leap none, of?_eq_some_iff] at h
        split at h
        · exact .inr h.1
        · exact .inl h.1

/-- Instants less a number of days are instants less a span. -/
theorem daysBefore?_eq_minus? (i : Instant) (days : Int)
    : i.daysBefore? days = (Span.ofDays? days).bind i.minus? := by
  ext j
  rw [Option.bind_eq_some_iff]
  constructor
  · intro reached
    have bounds : -longestSpan ≤ days * secondsPerDay ∧ days * secondsPerDay ≤ longestSpan := by
      have second := second_daysBefore? reached
      have covered := i.covered
      have covered' := j.covered
      unfold CoveredSecond at covered covered'
      unfold longestSpan max64 secondsPerDay firstDay lastDay at *
      omega
    let span : Span := ⟨days * secondsPerDay, bounds⟩
    have same : i.minus? span = i.daysBefore? days := minus?_of_days rfl
    refine ⟨span, Span.ofDays?_eq_some_iff.mpr rfl, ?_⟩
    rw [same]
    exact reached
  · rintro ⟨span, found, reached⟩
    rw [minus?_of_days (Span.ofDays?_eq_some_iff.mp found)] at reached
    exact reached

-----------------------------------------------------------------------------------------
-- Counting seconds
-----------------------------------------------------------------------------------------

/-- The seconds that have begun by an instant on the clock that shows the present: it counts the leap
second in which the present lies, if it does, and no other.
-/
def begun (now i : Instant) : Int :=
  if now.isLeap ∧ (now.second < i.second ∨ now.second = i.second ∧ i.isLeap) then i.second + 1
  else i.second

/-- An instant is a number of seconds before the present: so many fewer seconds have begun by then, as
much of the last of them is gone, and it is not a leap second, unless it is that of the present.
-/
structure SecondsBefore (seconds : Int) (i now : Instant) : Prop where
  begun : now.begun i = now.begun now - seconds
  fraction : i.nanos % nanosPerSecond = now.nanos % nanosPerSecond
  leap : i.isLeap → now.isLeap ∧ i.second = now.second

variable {now c c' : Instant} {days days' : Int}

theorem begun_of_plain (plain : now.isLeap = false) (i : Instant) : now.begun i = i.second := by
  unfold begun
  rw [plain]
  exact if_neg fun h => nomatch h.1

/-- The clock that shows a leap second has counted it. -/
theorem begun_of_leap (leap : now.isLeap = true) (same : i.second = now.second)
    (also : i.isLeap = true)
    : now.begun i = now.second + 1 := by
  rw [begun, if_pos ⟨leap, .inr ⟨same.symm, also⟩⟩, same]

theorem begun_of_later (leap : now.isLeap = true) (later : now.second < i.second)
    : now.begun i = i.second + 1 :=
  if_pos ⟨leap, .inl later⟩

/-- It does not count the leap second before, nor the second that comes before the leap second. -/
theorem begun_of_earlier (earlier : i.second ≤ now.second) (plain : i.isLeap = false)
    : now.begun i = i.second := by
  refine if_neg ?_
  rintro ⟨-, later | ⟨-, leap⟩⟩
  · exact Int.not_lt.mpr earlier later
  · rw [plain] at leap
    cases leap

/-- The nanoseconds of an instant are less than those of two seconds, and in a leap second not less than
those of one.
-/
theorem nanos_bounds (i : Instant)
    : i.nanos < 2 * nanosPerSecond ∧ (i.isLeap = true ↔ nanosPerSecond ≤ i.nanos) := by
  have fraction := i.fraction
  unfold CoveredNanos at fraction
  exact ⟨by omega, decide_eq_true_iff⟩

theorem eq_of_nanos (same : i.second = j.second) (gone : i.nanos = j.nanos) : i = j := by
  cases i
  cases j
  cases same
  cases gone
  rfl

/-- Outside leap seconds what is so many seconds before the present has so many fewer seconds. -/
theorem SecondsBefore.of_plain_iff {seconds : Int} (plain : now.isLeap = false)
    : c.SecondsBefore seconds now ↔ c.second = now.second - seconds ∧ c.nanos = now.nanos := by
  obtain ⟨nowBound, nowLeap⟩ := now.nanos_bounds
  obtain ⟨bound, leap⟩ := c.nanos_bounds
  rw [plain] at nowLeap
  constructor
  · intro h
    have counted := h.begun
    have fraction := h.fraction
    have only := h.leap
    rw [begun_of_plain plain, begun_of_plain plain] at counted
    rw [plain] at only
    refine ⟨counted, ?_⟩
    simp only [Bool.false_eq_true, false_iff, false_and, imp_false, leap] at nowLeap only
    unfold nanosPerSecond at *
    omega
  · rintro ⟨second, nanos⟩
    refine ⟨?_, congrArg (· % nanosPerSecond) nanos, fun isLeap => ?_⟩
    · rw [begun_of_plain plain, begun_of_plain plain, second]
    · rw [leap, nanos, ← nowLeap] at isLeap
      cases isLeap

/-- From a leap second what is so many seconds before it is counted from the second after it if it is
earlier, and from the second before if it is later.
-/
theorem SecondsBefore.of_leap_iff {seconds : Int} (leap : now.isLeap = true) (some : seconds ≠ 0)
    : c.SecondsBefore seconds now
      ↔ c.second = (if 0 < seconds then now.second + 1 else now.second) - seconds
        ∧ c.nanos = now.nanos - nanosPerSecond := by
  obtain ⟨nowBound, nowLeap⟩ := now.nanos_bounds
  obtain ⟨bound, isLeap⟩ := c.nanos_bounds
  have late := nowLeap.mp leap
  constructor
  · intro h
    have counted := h.begun
    have fraction := h.fraction
    rw [begun_of_leap leap rfl leap] at counted
    have plain : c.isLeap = false := by
      rw [Bool.eq_false_iff]
      intro also
      rw [begun_of_leap leap (h.leap also).2 also] at counted
      omega
    have below := nanos_lt_of_plain plain
    refine ⟨?_, by unfold nanosPerSecond at *; omega⟩
    by_cases later : now.second < c.second
    · rw [begun_of_later leap later] at counted
      rw [if_neg (by omega)]
      omega
    · rw [begun_of_earlier (Int.not_lt.mp later) plain] at counted
      rw [if_pos (by omega)]
      omega
  · rintro ⟨second, nanos⟩
    have plain : c.isLeap = false := by
      rw [← Bool.not_eq_true, isLeap]
      omega
    refine ⟨?_, ?_, fun also => ?_⟩
    · rw [begun_of_leap leap rfl leap]
      by_cases back : 0 < seconds
      · rw [if_pos back] at second
        rw [begun_of_earlier (by omega) plain]
        exact second
      · rw [if_neg back] at second
        rw [begun_of_later leap (by omega)]
        omega
    · rw [nanos]
      exact (Nat.mod_eq_sub_mod late).symm
    · rw [plain] at also
      cases also

/-- No seconds before the present there is only the present. -/
theorem SecondsBefore.zero_iff : c.SecondsBefore 0 now ↔ now = c := by
  constructor
  · intro h
    cases leap : now.isLeap with
    | false =>
        obtain ⟨second, nanos⟩ := (of_plain_iff leap).mp h
        exact eq_of_nanos (by omega) nanos.symm
    | true =>
        have counted := h.begun
        rw [begun_of_leap leap rfl leap] at counted
        have also : c.isLeap = true := by
          rw [← Bool.not_eq_false]
          intro ordinary
          rcases Int.lt_or_le now.second c.second with later | earlier
          · rw [begun_of_later leap later] at counted
            omega
          · rw [begun_of_earlier earlier ordinary] at counted
            omega
        obtain ⟨nowBound, nowLeap⟩ := now.nanos_bounds
        obtain ⟨bound, isLeap⟩ := c.nanos_bounds
        have late := nowLeap.mp leap
        have alsoLate := isLeap.mp also
        have fraction := h.fraction
        refine eq_of_nanos (h.leap also).2.symm ?_
        unfold nanosPerSecond at *
        omega
  · rintro rfl
    exact ⟨(Int.sub_zero _).symm, rfl, fun leap => ⟨leap, rfl⟩⟩

/-- Days back from an instant lead to the one that is so many days' seconds before it. -/
theorem daysBefore?_eq_some_iff
    : now.daysBefore? days = some c ↔ c.SecondsBefore (days * secondsPerDay) now := by
  cases leap : now.isLeap with
  | false => rw [daysBefore?_of_plain leap, of?_eq_some_iff, SecondsBefore.of_plain_iff leap]
  | true =>
      by_cases none : days = 0
      · rw [none, Int.zero_mul, SecondsBefore.zero_iff, daysBefore?, if_pos rfl, Option.some_inj]
      · have some : days * secondsPerDay ≠ 0 := by
          unfold secondsPerDay
          omega
        have back : 0 < days ↔ 0 < days * secondsPerDay := by
          unfold secondsPerDay
          omega
        rw [daysBefore?_of_leap leap none, of?_eq_some_iff, SecondsBefore.of_leap_iff leap some]
        simp only [back]

end Instant

end AdoptionRecords.Calendar
