import AdoptionRecords.Proofs.Retention.Pruning

/-! Cleaning the log up removes the entries that are more than a number of days old, in whole numbers
that no calendar bounds, and nothing else. So a threshold that leads before all dates, or before the
dates that the store can hold, removes nothing, and a longer threshold never removes more.
-/

namespace AdoptionRecords

open Calendar

-----------------------------------------------------------------------------------------
-- Old entries
-----------------------------------------------------------------------------------------

namespace Tables

/-- The log dates its entries only as the store holds instants. -/
def LogHeld (t : Tables) : Prop :=
  ∀ entry ∈ t.logRows.entries, ∀ instant ∈ entry.2.performedAt, instant.IsHeld

instance (t : Tables) : Decidable t.LogHeld :=
  inferInstanceAs (Decidable (∀ _ ∈ _, _))

/-- The numbers of the log entries that are dated before an instant. It is counted in nanoseconds and
may lie where there is no instant.
-/
def loggedBefore (t : Tables) (nanosecond : Int) : Set Int :=
  { number | ∃ row instant, t.logRows.find? number = some row
    ∧ row.performedAt = some instant ∧ instant.nanosecond < nanosecond }

variable {t : Tables} {now : Instant} {days : Int}

theorem loggedBefore_mono {earlier later : Int} (h : earlier ≤ later)
    : t.loggedBefore earlier ⊆ t.loggedBefore later := by
  rintro number ⟨row, instant, found, dated, before⟩
  exact ⟨row, instant, found, dated, Int.lt_of_lt_of_le before h⟩

theorem LogHeld.isHeld (h : t.LogHeld) {number : Int} {row : LogRow} {instant : Instant}
    (found : t.logRows.find? number = some row) (dated : row.performedAt = some instant)
    : instant.IsHeld :=
  h (number, row) (Table.find?_eq_some_iff.mp found) instant dated

theorem LogHeld.logStorable (h : t.LogHeld) : t.LogStorable := by
  intro entry member
  cases dated : entry.2.performedAt with
  | none => rfl
  | some instant => exact (h entry member instant dated).storable

/-- The entries that are older than the cutoff are those dated before the present, so many days back:
all that are dated before its microsecond, and none that is dated later than the present itself. If
there is no cutoff none is, because no instant is so many days back.
-/
theorem LogHeld.aged_bounds (h : t.LogHeld) (plain : now.isLeap = false)
    (reach : 0 ≤ days ∨ CoveredSecond (now.second - days * secondsPerDay))
    : t.loggedBefore (now.stored.nanosecond - days * nanosPerDay) ⊆ t.aged (now.daysBefore? days)
      ∧ t.aged (now.daysBefore? days) ⊆ t.loggedBefore (now.nanosecond - days * nanosPerDay) := by
  cases reached : now.daysBefore? days with
  | none =>
      have forward : 0 ≤ days := by
        refine reach.resolve_right fun covered => ?_
        rw [Instant.daysBefore?_of_plain plain, Instant.of?, dif_pos
          ⟨covered, .inl (Instant.nanos_lt_of_plain plain)⟩] at reached
        cases reached
      constructor
      · rintro number ⟨row, instant, -, -, before⟩
        have beyond := Instant.nanosecond_of_not_reached plain forward reached instant
        rw [Instant.nanosecond_stored plain] at before
        omega
      · rintro number ⟨row, instant, limit, -, -, ⟨⟩, -⟩
  | some cutoff =>
      constructor
      · rintro number ⟨row, instant, found, dated, before⟩
        have held := h.isHeld found dated
        exact ⟨row, instant, cutoff, found, dated, rfl, (held.lt_bound plain reached).1 before⟩
      · rintro number ⟨row, instant, limit, found, dated, ⟨⟩, before⟩
        have held := h.isHeld found dated
        exact ⟨row, instant, found, dated, (held.lt_bound plain reached).2 before⟩

/-- A longer threshold makes no more entries old. -/
theorem LogHeld.aged_subset (h : t.LogHeld) (plain : now.isLeap = false) {longer : Int}
    (forward : 0 ≤ days) (le : days ≤ longer)
    : t.aged (now.daysBefore? longer) ⊆ t.aged (now.daysBefore? days) := by
  rcases Int.lt_or_eq_of_le le with less | rfl
  · have within := (h.aged_bounds plain (.inl (Int.le_trans forward le))).2
    have all := (h.aged_bounds plain (.inl forward)).1
    refine within.trans (Set.Subset.trans (loggedBefore_mono ?_) all)
    rw [Instant.nanosecond_stored plain]
    unfold nanosPerDay secondsPerDay nanosPerSecond
    omega
  · exact Set.Subset.rfl

/-- Once the old entries are gone, none is old by a cutoff that made no others so. -/
theorem aged_withoutAged_of_subset {cutoff other : Option Instant}
    (subset : t.aged other ⊆ t.aged cutoff)
    : (t.withoutAged cutoff).aged other = ∅ := by
  refine Set.eq_empty_iff_forall_notMem.mpr ?_
  intro number member
  by_cases old : number ∈ t.aged cutoff
  · obtain ⟨row, found, -⟩ := mem_aged_iff.mp member
    have gone := contains_withoutAged_of_aged old
    rw [Table.contains, found] at gone
    cases gone
  · rw [mem_aged_iff, find?_withoutAged old, ← mem_aged_iff] at member
    exact old (subset member)

end Tables

-----------------------------------------------------------------------------------------
-- What is removed
-----------------------------------------------------------------------------------------

namespace Database

/-- The log entries that cleaning the log up removes under a threshold of days. -/
def pruned (d : Database) (days : Int) : Set Int :=
  { number | d.store.tables.logRows.contains number = true
    ∧ ((cleanUpLog days).run d).2.store.tables.logRows.contains number = false }

/-- (d.PrunesOnly days) holds if cleaning the log of d up counts the entries that it removes, and
changes no other entry and nothing beside the log.
-/
structure PrunesOnly (d : Database) (days : Int) : Prop where
  counted : ((cleanUpLog days).run d).1 = (d.pruned days).ncard
  kept : ∀ number ∉ d.pruned days,
    ((cleanUpLog days).run d).2.store.tables.logRows.find? number
      = d.store.tables.logRows.find? number
  others : ∃ rows, ((cleanUpLog days).run d).2
    = { d with store := { d.store with tables := { d.store.tables with log := some rows } } }

variable {d : Database} {days : Int}

/-- Cleaning the log up removes the entries that are older than the cutoff. -/
theorem run_cleanUpLog_of_held (reachable : d.reachable = true)
    (present : ∃ rows, d.store.tables.log = some rows) (held : d.store.tables.LogHeld) (days : Int)
    : let aged := d.store.tables.aged (d.clock.daysBefore? days)
      let tables := d.store.tables.withoutAged (d.clock.daysBefore? days)
      (cleanUpLog days).run d = (aged.ncard, { d with store := { d.store with tables } }) := by
  obtain ⟨rows, present⟩ := present
  refine run_cleanUpLog reachable present rfl ?_
  intro limit reached refused
  rw [reached]
  exact held.logStorable.aged_eq_empty refused

theorem pruned_eq_aged (reachable : d.reachable = true)
    (present : ∃ rows, d.store.tables.log = some rows) (held : d.store.tables.LogHeld) (days : Int)
    : d.pruned days = d.store.tables.aged (d.clock.daysBefore? days) := by
  ext number
  rw [pruned, run_cleanUpLog_of_held reachable present held]
  constructor
  · rintro ⟨there, gone⟩
    by_contra young
    rw [Table.contains, Tables.find?_withoutAged young, ← Table.contains, there] at gone
    cases gone
  · intro old
    obtain ⟨row, found, -⟩ := Tables.mem_aged_iff.mp old
    exact ⟨Table.contains_iff.mpr ⟨row, found⟩, Tables.contains_withoutAged_of_aged old⟩

theorem prunesOnly_of_held (reachable : d.reachable = true)
    (present : ∃ rows, d.store.tables.log = some rows) (held : d.store.tables.LogHeld) (days : Int)
    : d.PrunesOnly days := by
  have run := run_cleanUpLog_of_held reachable present held days
  have same := pruned_eq_aged reachable present held days
  obtain ⟨rows, present⟩ := present
  refine ⟨?_, ?_, rows.filter fun _ row => !row.isOlder (d.clock.daysBefore? days), ?_⟩
  · rw [run, same]
  · intro number young
    rw [run]
    exact Tables.find?_withoutAged (by rwa [← same])
  · rw [run, Tables.withoutAged, present]
    rfl

/-- Cleaning the log up, on any database that can be reached and has a log that dates its entries as
the store holds instants, at any clock that tells no leap second. The threshold is not negative, or
leads to an instant. What is removed is what is dated before the present, so many days back in whole
numbers: exactly that if the clock tells whole microseconds, and to the microsecond otherwise. The
rest stays as it is. A longer threshold removes no more than a shorter one, and nothing after it; and
what is dated at the present or later stays.
-/
theorem pruning_exact (reachable : d.reachable = true)
    (present : ∃ rows, d.store.tables.log = some rows) (held : d.store.tables.LogHeld)
    (plain : d.clock.isLeap = false)
    : (∀ days, 0 ≤ days ∨ CoveredSecond (d.clock.second - days * secondsPerDay) →
        d.PrunesOnly days
        ∧ (d.clock.nanos % 1000 = 0 →
          d.pruned days = d.store.tables.loggedBefore (d.clock.nanosecond - days * nanosPerDay))
        ∧ d.store.tables.loggedBefore (d.now.nanosecond - days * nanosPerDay) ⊆ d.pruned days
        ∧ d.pruned days ⊆ d.store.tables.loggedBefore (d.clock.nanosecond - days * nanosPerDay))
      ∧ (∀ days longer, 0 ≤ days → days ≤ longer →
          let after := ((cleanUpLog days).run d).2
          d.pruned longer ⊆ d.pruned days ∧ (cleanUpLog longer).run after = (0, after))
      ∧ ∀ days number row instant, 0 ≤ days → d.store.tables.logRows.find? number = some row →
          row.performedAt = some instant → ¬ instant < d.clock → number ∉ d.pruned days := by
  have same := pruned_eq_aged reachable present held
  refine ⟨?_, ?_, ?_⟩
  · intro days reach
    obtain ⟨all, within⟩ := held.aged_bounds plain reach
    rw [← same] at all within
    refine ⟨prunesOnly_of_held reachable present held days, ?_, all, within⟩
    intro whole
    refine Set.Subset.antisymm within (Set.Subset.trans (Tables.loggedBefore_mono ?_) all)
    rw [Instant.nanosecond_stored plain]
    unfold Instant.nanosecond nanosPerSecond
    omega
  · intro days longer forward le after
    have subset := held.aged_subset plain forward le
    refine ⟨by rwa [same, same], ?_⟩
    obtain ⟨rows, log⟩ := (prunesOnly_of_held reachable present held days).others
    have run := run_cleanUpLog_of_held reachable present held days
    have there : after.store.tables.log = some rows := by rw [show after = _ from log]
    refine run_cleanUpLog_of_young ?_ there ?_
    · rw [show after = _ from log]
      exact reachable
    · rw [show after = _ from congrArg Prod.snd run]
      exact Tables.aged_withoutAged_of_subset subset
  · intro days number row instant forward found dated late member
    obtain ⟨row', instant', found', dated', before⟩ :=
      (held.aged_bounds plain (.inl forward)).2 (same days ▸ member)
    cases found.symm.trans found'
    cases dated.symm.trans dated'
    refine late ((Instant.lt_iff_nanosecond_lt (held.isHeld found dated).plain plain).mpr ?_)
    unfold nanosPerDay secondsPerDay nanosPerSecond at before
    omega

/-- An owner was archived 400 days ago. The entry is removed under 399 days, and not under 400; so it
stays under 3000000 days, which lead before the dates that the store can hold, and under 300000000,
which lead before all dates.
-/
theorem pruning_exact_of_owner
    : let d := (fresh .epoch).after [
        .create .petOwner (PetOwnerContent.ofName "Ann"),
        .transition ⟨.archive, .petOwner, 1, none, "moved away"⟩,
        .surroundings (Instant.epoch.addSeconds (400 * secondsPerDay)) .standard true]
      d.pruned 399 = d.store.tables.loggedBefore (d.clock.nanosecond - 399 * nanosPerDay)
      ∧ 1 ∈ d.pruned 399 ∧ 1 ∉ d.pruned 400 ∧ 1 ∉ d.pruned 3000000 ∧ 1 ∉ d.pruned 300000000
      ∧ d.PrunesOnly 3000000 ∧ d.PrunesOnly 300000000 := by
  intro d
  obtain ⟨days, longer, -⟩ := pruning_exact (d := d) (by decide +kernel)
    (Option.isSome_iff_exists.mp (by decide +kernel)) (by decide +kernel) (by decide +kernel)
  have exactly400 : 1 ∉ d.pruned 400 := fun member => absurd member.2 (by decide +kernel)
  refine ⟨(days 399 (.inl (by decide))).2.1 (by decide +kernel),
    ⟨by decide +kernel, by decide +kernel⟩, exactly400, ?_, ?_,
    (days 3000000 (.inl (by decide))).1, (days 300000000 (.inl (by decide))).1⟩
  · exact fun member => exactly400 ((longer 400 3000000 (by decide) (by decide)).1 member)
  · exact fun member => exactly400 ((longer 400 300000000 (by decide) (by decide)).1 member)

end Database

end AdoptionRecords
