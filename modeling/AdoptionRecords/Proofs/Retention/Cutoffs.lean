import AdoptionRecords.Calendar.Instant

/-! Cutoffs as the store sees them. An instant that is stored loses what it has below a microsecond,
toward the past; one that is bound to a statement loses it toward 2000. So a cutoff that is not later
than now can be bound to one that is later than now is stored, though only before 2000.
-/

namespace AdoptionRecords.Calendar

namespace Instant

variable {i cutoff : Instant} {days : Int}

theorem second_of? {second : Int} {nanos : Nat} (h : of? second nanos = some i)
    : i.second = second ∧ i.nanos = nanos := by
  unfold of? at h
  split at h
  · cases h
    exact ⟨rfl, rfl⟩
  · cases h

/-- An instant that a statement binds as the store keeps it: one of whole microseconds, or one from
2000 on. The others lose a part of a microsecond, in a statement toward 2000 and in the store toward
the past.
-/
def BoundAsStored (i : Instant) : Prop :=
  i.nanos % 1000 = 0 ∨ storeEpoch ≤ i.second

instance (i : Instant) : Decidable i.BoundAsStored :=
  inferInstanceAs (Decidable (_ ∨ _))

/-- From 2000 on, and for whole microseconds, the microseconds since 2000 are cut off toward the past
as well.
-/
theorem BoundAsStored.micros_eq (h : i.BoundAsStored)
    : ((i.second - storeEpoch) * nanosPerSecond + i.nanos).tdiv 1000
        = (i.second - storeEpoch) * 1000000 + (i.nanos / 1000 : Nat) := by
  unfold BoundAsStored at h
  unfold nanosPerSecond
  rcases h with whole | late
  · have exact_multiple : (i.second - storeEpoch) * (1000000000 : Nat) + i.nanos
        = 1000 * ((i.second - storeEpoch) * 1000000 + (i.nanos / 1000 : Nat)) := by
      omega
    rw [exact_multiple]
    exact Int.mul_tdiv_cancel_left _ (by decide)
  · rw [Int.tdiv_eq_ediv_of_nonneg (by omega)]
    omega

theorem BoundAsStored.bound_eq (h : i.BoundAsStored) : i.bound = i.stored := by
  have micros := h.micros_eq
  have fraction := i.fraction
  unfold CoveredNanos at fraction
  unfold nanosPerSecond at micros fraction
  rw [bound, stored]
  unfold nanosPerSecond
  rw [micros, Int.fdiv_eq_ediv_of_nonneg _ (by decide), Int.fmod_eq_emod_of_nonneg _ (by decide)]
  by_cases leap : i.isLeap = true
  · have past : 1000000000 ≤ i.nanos := of_decide_eq_true leap
    rw [if_pos leap]
    congr 2 <;> omega
  · have within : i.nanos < 1000000000 := Nat.lt_of_not_le fun past => leap (decide_eq_true past)
    rw [if_neg leap]
    have second : storeEpoch + ((i.second - storeEpoch) * 1000000 + (i.nanos / 1000 : Nat)) / 1000000
        = i.second := by
      omega
    have nanos : (((i.second - storeEpoch) * 1000000 + (i.nanos / 1000 : Nat)) % 1000000
        * 1000).toNat = i.nanos / 1000 * 1000 := by
      omega
    rw [second, nanos, of?, dif_pos ⟨i.covered, .inl (by unfold nanosPerSecond; omega)⟩]
    rfl

/-- If there is no instant with a given second, another one stands in for it. -/
theorem second_getD_of? (second : Int) (nanos : Nat) (i : Instant)
    : ((of? second nanos).getD i).second = second ∨ ((of? second nanos).getD i).second = i.second := by
  cases found : of? second nanos with
  | none => exact .inr rfl
  | some other => exact .inl (second_of? found).1

/-- Binding takes an instant to one less than three seconds later. -/
theorem second_bound_lt (i : Instant) : i.bound.second < i.second + 3 := by
  have fraction := i.fraction
  unfold CoveredNanos nanosPerSecond at fraction
  have micros : ((i.second - storeEpoch) * nanosPerSecond + i.nanos).tdiv 1000
      ≤ (i.second - storeEpoch) * 1000000 + 2000000 := by
    unfold nanosPerSecond
    have sign : Int.sign 1000 = 1 := rfl
    rw [Int.tdiv_eq_ediv]
    split <;> omega
  unfold bound
  rcases second_getD_of? _ _ i with second | second
  · rw [second, Int.fdiv_eq_ediv_of_nonneg _ (by decide)]
    omega
  · rw [second]
    omega

/-- Storing does not take an instant to an earlier second. -/
theorem le_second_stored (i : Instant) : i.second ≤ i.stored.second := by
  unfold stored
  split
  · rcases second_getD_of? (i.second + 1) _ i with second | second
    · rw [second]
      omega
    · exact Int.le_of_eq second.symm
  · exact Int.le_refl _

/-- An instant some days back is earlier by at least a day less one second. -/
theorem second_daysBefore?_le (h : i.daysBefore? days = some cutoff) (back : 0 < days)
    : cutoff.second ≤ i.second + 1 - secondsPerDay := by
  unfold daysBefore? at h
  rw [if_neg (by omega)] at h
  simp only [if_pos back] at h
  unfold secondsPerDay at h ⊢
  split at h <;>
  · have second := (second_of? h).1
    omega

/-- A cutoff some days back is not later than the present, as the store keeps it. -/
theorem not_stored_lt_bound (h : i.daysBefore? days = some cutoff) (forward : 0 ≤ days)
    (precise : 0 < days ∨ i.BoundAsStored)
    : ¬ i.stored < cutoff.bound := by
  by_cases none : days = 0
  · subst none
    have same : i = cutoff := by
      simpa [daysBefore?] using h
    have precise : i.BoundAsStored := precise.resolve_left (Int.lt_irrefl 0)
    rw [← same, precise.bound_eq]
    rintro (less | ⟨-, less⟩)
    · exact Int.lt_irrefl _ less
    · exact Nat.lt_irrefl _ less
  · have back := second_daysBefore?_le h (by omega)
    have bound := cutoff.second_bound_lt
    have stored := i.le_second_stored
    have earlier : cutoff.bound.second < i.stored.second := by
      unfold secondsPerDay at back
      omega
    rintro (less | ⟨same, -⟩) <;> omega

end Instant

-----------------------------------------------------------------------------------------
-- Counting in nanoseconds
-----------------------------------------------------------------------------------------

/-- The nanoseconds of a day. -/
def nanosPerDay : Int :=
  secondsPerDay * nanosPerSecond

namespace Instant

variable {i other cutoff : Instant} {days : Int}

/-- The nanoseconds from 1970-01-01T00:00:00Z to an instant, a leap second being counted as the second
after it.
-/
def nanosecond (i : Instant) : Int :=
  i.second * nanosPerSecond + i.nanos

/-- An instant as the store holds it: of whole microseconds, in no leap second, and not before the
first date that can be stored.
-/
structure IsHeld (i : Instant) : Prop where
  plain : i.isLeap = false
  whole : i.nanos % 1000 = 0
  storable : i.isStorable = true

instance (i : Instant) : Decidable i.IsHeld :=
  decidable_of_iff (i.isLeap = false ∧ i.nanos % 1000 = 0 ∧ i.isStorable = true)
    ⟨fun ⟨plain, whole, storable⟩ => ⟨plain, whole, storable⟩,
      fun h => ⟨h.plain, h.whole, h.storable⟩⟩

theorem nanos_lt_of_plain (plain : i.isLeap = false) : i.nanos < nanosPerSecond :=
  Nat.lt_of_not_le (of_decide_eq_false plain)

/-- Outside leap seconds instants are ordered as their counts of nanoseconds. -/
theorem lt_iff_nanosecond_lt (plain : i.isLeap = false) (otherPlain : other.isLeap = false)
    : i < other ↔ i.nanosecond < other.nanosecond := by
  have below := nanos_lt_of_plain plain
  have otherBelow := nanos_lt_of_plain otherPlain
  show i.second < other.second ∨ (i.second = other.second ∧ i.nanos < other.nanos) ↔ _
  unfold nanosecond
  unfold nanosPerSecond at *
  omega

/-- Storing an instant takes its count down to whole microseconds. -/
theorem nanosecond_stored (plain : i.isLeap = false)
    : i.stored.nanosecond = i.nanosecond / 1000 * 1000 := by
  unfold stored
  rw [if_neg (Bool.eq_false_iff.mp plain)]
  unfold nanosecond nanosPerSecond
  dsimp only
  omega

/-- Outside leap seconds there is an instant some days back exactly if the calendar reaches its second;
then it is so many days' nanoseconds earlier.
-/
theorem daysBefore?_of_plain (plain : i.isLeap = false) (days : Int)
    : i.daysBefore? days = of? (i.second - days * secondsPerDay) i.nanos := by
  unfold daysBefore?
  split
  · rename_i none
    have same : i.second - days * secondsPerDay = i.second := by
      rw [none]
      omega
    rw [same, of?, dif_pos ⟨i.covered, i.fraction⟩]
  · rw [if_neg (Bool.eq_false_iff.mp plain)]

theorem nanosecond_daysBefore? (plain : i.isLeap = false) (h : i.daysBefore? days = some cutoff)
    : cutoff.isLeap = false ∧ cutoff.nanosecond = i.nanosecond - days * nanosPerDay := by
  rw [daysBefore?_of_plain plain] at h
  obtain ⟨second, nanos⟩ := second_of? h
  constructor
  · rw [isLeap, nanos]
    exact plain
  · unfold nanosecond nanosPerDay
    rw [second, nanos, Int.sub_mul, Int.mul_assoc]
    omega

/-- Cutting a count off to thousands, toward zero, takes it less than a thousand away. -/
theorem tdiv_thousand (n : Int)
    : n - 1000 < 1000 * n.tdiv 1000 ∧ 1000 * n.tdiv 1000 < n + 1000
      ∧ 1000 * n.tdiv 1000 ≤ max n 0 := by
  have sign : Int.sign 1000 = 1 := rfl
  rw [Int.tdiv_eq_ediv]
  split <;> omega

/-- Binding an instant keeps it within a microsecond, and makes it one of whole microseconds. Outside
leap seconds the calendar reaches what it leads to: at most the next second, and that before 2000.
-/
theorem nanosecond_bound (plain : i.isLeap = false)
    : i.bound.isLeap = false ∧ i.bound.nanosecond % 1000 = 0
      ∧ i.nanosecond - 1000 < i.bound.nanosecond ∧ i.bound.nanosecond < i.nanosecond + 1000 := by
  have below := nanos_lt_of_plain plain
  obtain ⟨first, last⟩ := i.covered
  obtain ⟨above, near, least⟩ := tdiv_thousand ((i.second - storeEpoch) * nanosPerSecond + i.nanos)
  simp only [bound]
  generalize ((i.second - storeEpoch) * nanosPerSecond + i.nanos).tdiv 1000 = micros at *
  rw [Int.fdiv_eq_ediv_of_nonneg _ (by decide), Int.fmod_eq_emod_of_nonneg _ (by decide)]
  unfold firstDay lastDay secondsPerDay storeEpoch nanosPerSecond at *
  have reached : CoveredSecond (946684800 + micros / 1000000)
      ∧ CoveredNanos (946684800 + micros / 1000000) (micros % 1000000 * 1000).toNat := by
    unfold CoveredSecond CoveredNanos firstDay lastDay secondsPerDay nanosPerSecond
    omega
  rw [of?, dif_pos reached, Option.getD_some, isLeap, decide_eq_false_iff_not]
  unfold nanosecond nanosPerSecond
  dsimp only
  omega

/-- Days back from an instant that the calendar does not reach lie before all instants. -/
theorem nanosecond_of_not_reached (plain : i.isLeap = false) (forward : 0 ≤ days)
    (h : i.daysBefore? days = none) (other : Instant)
    : i.nanosecond - days * nanosPerDay ≤ other.nanosecond := by
  have below := nanos_lt_of_plain plain
  have covered := i.covered
  have otherCovered := other.covered
  rw [daysBefore?_of_plain plain, of?, dite_eq_right_iff] at h
  have beyond : ¬ CoveredSecond (i.second - days * secondsPerDay) :=
    fun reached => nomatch h ⟨reached, .inl below⟩
  unfold CoveredSecond firstDay lastDay at *
  unfold nanosecond nanosPerDay
  unfold secondsPerDay nanosPerSecond at *
  omega

/-- What the store holds is before a bound cutoff if it is before the microsecond in which the present
lies, so many days back; and then it is before the present, so many days back.
-/
theorem IsHeld.lt_bound (h : i.IsHeld) {now : Instant} (plain : now.isLeap = false)
    (reached : now.daysBefore? days = some cutoff)
    : (i.nanosecond < now.stored.nanosecond - days * nanosPerDay → i < cutoff.bound)
      ∧ (i < cutoff.bound → i.nanosecond < now.nanosecond - days * nanosPerDay) := by
  obtain ⟨cutoffPlain, same⟩ := nanosecond_daysBefore? plain reached
  obtain ⟨boundPlain, whole, above, below⟩ := nanosecond_bound cutoffPlain
  have heldWhole : i.nanosecond % 1000 = 0 := by
    have whole := h.whole
    unfold nanosecond nanosPerSecond
    omega
  rw [lt_iff_nanosecond_lt h.plain boundPlain, nanosecond_stored plain]
  unfold nanosPerDay secondsPerDay nanosPerSecond at *
  omega

end Instant

end AdoptionRecords.Calendar
