import AdoptionRecords.Calendar.Date

/-! Instants of coordinated universal time. A leap second is kept as a second that lasts for two:
its nanoseconds run on from 10^9 to 2 * 10^9. The store keeps microseconds and no leap seconds.
-/

namespace AdoptionRecords.Calendar

/-- The number of seconds in a day. -/
def secondsPerDay : Int := 86400

/-- The number of nanoseconds in a second. -/
def nanosPerSecond : Nat := 1000000000

/-- The seconds from 1970-01-01T00:00:00Z that fall on a date. -/
def CoveredSecond (second : Int) : Prop :=
  firstDay * secondsPerDay ≤ second ∧ second < (lastDay + 1) * secondsPerDay

instance (second : Int) : Decidable (CoveredSecond second) :=
  inferInstanceAs (Decidable (_ ∧ _))

/-- The nanoseconds of a second; the last second of a minute may be followed by a leap second. -/
def CoveredNanos (second : Int) (nanos : Nat) : Prop :=
  nanos < nanosPerSecond ∨ (nanos < 2 * nanosPerSecond ∧ second % 60 = 59)

instance (second : Int) (nanos : Nat) : Decidable (CoveredNanos second nanos) :=
  inferInstanceAs (Decidable (_ ∨ _))

/-- An instant is a second from 1970-01-01T00:00:00Z and the nanoseconds gone since. -/
structure Instant where
  second : Int
  nanos : Nat
  covered : CoveredSecond second
  fraction : CoveredNanos second nanos
  deriving DecidableEq, Repr

namespace Instant

/-- The instant with the given second and nanoseconds, if there is one. -/
def of? (second : Int) (nanos : Nat) : Option Instant :=
  if h : CoveredSecond second ∧ CoveredNanos second nanos then
    some ⟨second, nanos, h.1, h.2⟩
  else none

/-- The date on which an instant falls. -/
def date (i : Instant) : Date :=
  { day := i.second / secondsPerDay
    first_le := by
      have h := i.covered.1
      unfold firstDay secondsPerDay at *
      omega
    le_last := by
      have h := i.covered.2
      unfold lastDay secondsPerDay at *
      omega }

/-- The seconds gone since the midnight before an instant. -/
def secondOfDay (i : Instant) : Nat :=
  (i.second % secondsPerDay).toNat

/-- An instant lies in a leap second when its nanoseconds have run past one second. -/
def isLeap (i : Instant) : Bool :=
  nanosPerSecond ≤ i.nanos

/-- The instant a number of days before another, if there is one. Going back from a leap second
counts it as the second after the minute, going forward as the minute's last second.
-/
def daysBefore? (i : Instant) (days : Int) : Option Instant :=
  if days = 0 then some i
  else if i.isLeap then
    -- Other days have no leap second, so the fraction goes to an ordinary second.
    let second := if 0 < days then i.second + 1 else i.second
    of? (second - days * secondsPerDay) (i.nanos - nanosPerSecond)
  else of? (i.second - days * secondsPerDay) i.nanos

/-- Instants are ordered by second, then by nanoseconds. -/
instance : LT Instant where
  lt a b := a.second < b.second ∨ (a.second = b.second ∧ a.nanos < b.nanos)

instance (a b : Instant) : Decidable (a < b) :=
  inferInstanceAs (Decidable (_ ∨ _))

/-- The instant as the store keeps it: whole microseconds, a leap second counted as the second
that follows it.
-/
def stored (i : Instant) : Instant :=
  if i.isLeap then
    ((of? (i.second + 1) ((i.nanos - nanosPerSecond) / 1000 * 1000))).getD i
  else
    { second := i.second
      nanos := i.nanos / 1000 * 1000
      covered := i.covered
      fraction := by
        rcases i.fraction with h | h
        · exact .inl (by omega)
        · exact .inr ⟨by omega, h.2⟩ }

/-- The second at which the store's count of microseconds starts, 2000-01-01T00:00:00Z. -/
def storeEpoch : Int := 946684800

/-- The instant as it is bound to a statement: whole microseconds, cut off toward the start of
the store's count.
-/
def bound (i : Instant) : Instant :=
  let nanos := (i.second - storeEpoch) * nanosPerSecond + i.nanos
  let micros := nanos.tdiv 1000
  (of? (storeEpoch + micros.fdiv 1000000) (micros.fmod 1000000 * 1000).toNat).getD i

/-- The instant a number of seconds after another; the same if there is none. -/
def addSeconds (i : Instant) (seconds : Int) : Instant :=
  (of? (i.second + seconds) i.nanos).getD i

/-- The store refuses instants before -4713-11-24T00:00:00Z. -/
def isStorable (i : Instant) : Bool :=
  Date.firstStored * secondsPerDay ≤ i.second

/-- Milliseconds from 1970-01-01T00:00:00Z, rounded down. -/
def milliseconds (i : Instant) : Int :=
  i.second * 1000 + (i.nanos / 1000000 : Nat)

end Instant

end AdoptionRecords.Calendar
