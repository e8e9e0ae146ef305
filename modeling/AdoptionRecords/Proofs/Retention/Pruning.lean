import AdoptionRecords.Proofs.History.Batches
import AdoptionRecords.Proofs.Retention.Cutoffs
import AdoptionRecords.Proofs.Retention.Due

/-! Pruning the log. The entries that are older than a cutoff are removed and counted, and nothing else
is touched. Entries that the log takes meanwhile stay if they are not older.
-/

namespace AdoptionRecords

open Calendar

-----------------------------------------------------------------------------------------
-- Entries past a cutoff
-----------------------------------------------------------------------------------------

/-- A row of the log is older than a cutoff if it is dated before the cutoff, as this is bound to a
statement. None is older than a cutoff that is none.
-/
def LogRow.isOlder (cutoff : Option Instant) (row : LogRow) : Bool :=
  cutoff.any fun limit => row.performedAt.any (· < limit.bound)

/-- An entry that is not dated before the cutoff is not older. -/
theorem LogEntry.isOlder_row {e : LogEntry} {cutoff : Option Instant}
    (young : ∀ limit, cutoff = some limit → ¬ e.performedAt < limit.bound)
    : e.row.isOlder cutoff = false := by
  cases cutoff with
  | none => rfl
  | some limit => exact decide_eq_false (young limit rfl)

namespace Tables

/-- The numbers of the log entries that are older than a cutoff. -/
def aged (t : Tables) (cutoff : Option Instant) : Set Int :=
  { number | ∃ row instant limit, t.logRows.find? number = some row
    ∧ row.performedAt = some instant ∧ cutoff = some limit ∧ instant < limit.bound }

/-- The log holds no date that the store would refuse. -/
def LogStorable (t : Tables) : Prop :=
  ∀ entry ∈ t.logRows.entries, entry.2.performedAt.all Instant.isStorable = true

instance (t : Tables) : Decidable t.LogStorable :=
  inferInstanceAs (Decidable (∀ _ ∈ _, _))

/-- The tables without the log entries that are older than a cutoff. -/
def withoutAged (t : Tables) (cutoff : Option Instant) : Tables :=
  { t with log := t.log.map fun rows => rows.filter fun _ row => !row.isOlder cutoff }

variable {t before : Tables} {cutoff : Option Instant} {number : Int}

theorem mem_aged_iff
    : number ∈ t.aged cutoff
      ↔ ∃ row, t.logRows.find? number = some row ∧ row.isOlder cutoff = true := by
  simp only [aged, Set.mem_ofPred_eq, LogRow.isOlder, Option.any_eq_true, decide_eq_true_eq]
  constructor
  · rintro ⟨row, instant, limit, found, dated, cutoff, older⟩
    exact ⟨row, found, limit, cutoff, instant, dated, older⟩
  · rintro ⟨row, found, limit, cutoff, instant, dated, older⟩
    exact ⟨row, instant, limit, found, dated, cutoff, older⟩

/-- No entry of a log is older than a cutoff that the store would refuse. -/
theorem LogStorable.aged_eq_empty (h : t.LogStorable) {limit : Instant}
    (refused : limit.bound.isStorable = false)
    : t.aged (some limit) = ∅ := by
  refine Set.eq_empty_iff_forall_notMem.mpr ?_
  rintro number ⟨row, instant, _, found, dated, same, older⟩
  cases same
  have storable := h (number, row) (Table.find?_eq_some_iff.mp found)
  rw [dated, Option.all_some, Instant.isStorable, decide_eq_true_eq] at storable
  rw [Instant.isStorable, decide_eq_false_iff_not] at refused
  have later : limit.bound.second < instant.second := by
    omega
  rcases older with less | ⟨same, -⟩ <;> omega

theorem logRows_withoutAged (t : Tables) (cutoff : Option Instant)
    : (t.withoutAged cutoff).logRows = t.logRows.filter fun _ row => !row.isOlder cutoff := by
  rw [logRows, logRows, withoutAged]
  cases t.log <;> rfl

/-- An entry that is older than the cutoff is gone. -/
theorem contains_withoutAged_of_aged (h : number ∈ t.aged cutoff)
    : (t.withoutAged cutoff).logRows.contains number = false := by
  obtain ⟨row, found, older⟩ := mem_aged_iff.mp h
  rw [logRows_withoutAged, Table.contains, Table.find?_filter, found, Option.filter_some, older]
  rfl

/-- Every other entry is still there. -/
theorem find?_withoutAged (h : number ∉ t.aged cutoff)
    : (t.withoutAged cutoff).logRows.find? number = t.logRows.find? number := by
  rw [logRows_withoutAged, Table.find?_filter]
  cases found : t.logRows.find? number with
  | none => rfl
  | some row =>
      have young : row.isOlder cutoff = false := by
        rw [← Bool.not_eq_true]
        exact fun older => h (mem_aged_iff.mpr ⟨row, found, older⟩)
      rw [Option.filter_some, young]
      rfl

/-- Once they are removed, no entry is older than the cutoff. -/
theorem aged_withoutAged (t : Tables) (cutoff : Option Instant)
    : (t.withoutAged cutoff).aged cutoff = ∅ := by
  refine Set.eq_empty_iff_forall_notMem.mpr ?_
  intro number member
  obtain ⟨row, found, older⟩ := mem_aged_iff.mp member
  rw [logRows_withoutAged, Table.find?_filter, Option.filter_eq_some_iff] at found
  simp [older] at found

/-- Tables of the schema stay such without old log entries. -/
theorem Migrated.withoutAged (h : t.Migrated) (cutoff : Option Instant)
    : (t.withoutAged cutoff).Migrated := by
  obtain ⟨rows, present⟩ := h.log
  refine ⟨h.live, h.archive, ?_, h.liveFilled, h.archiveFilled⟩
  rw [Tables.withoutAged, present]
  exact ⟨_, rfl⟩

/-- A log without entries that are older than the cutoff stays as it is. -/
theorem withoutAged_eq_self (h : t.aged cutoff = ∅) : t.withoutAged cutoff = t := by
  have same : t.log.map (fun rows => rows.filter fun _ row => !row.isOlder cutoff) = t.log := by
    cases present : t.log with
    | none => rfl
    | some rows =>
        have kept := Set.eq_empty_iff_forall_notMem.mp h
        rw [Option.map_some]
        congr 1
        ext1 number
        have found := find?_withoutAged (kept number)
        rwa [logRows_withoutAged, logRows_of_log present] at found
  rw [withoutAged, same]

/-- Entries that are appended stay appended if none of them is older than the cutoff. -/
theorem appended_withoutAged
    (h : ∀ number ∈ t.aged cutoff, before.logRows.contains number = true)
    : before.appended (t.withoutAged cutoff) = before.appended t := by
  rw [appended, appended, logRows_withoutAged]
  congr 1
  ext1 number
  rw [Table.find?_filter, Table.find?_filter, Table.find?_filter]
  cases found : t.logRows.find? number with
  | none => rfl
  | some row =>
      cases older : row.isOlder cutoff with
      | false => simp [Option.filter, older]
      | true =>
          have old := h number (mem_aged_iff.mpr ⟨row, found, older⟩)
          simp [Option.filter, older, old]

/-- Entries that a log has taken do not change which are older than a cutoff, if they are not. -/
theorem LogsAlso.aged_eq {entries : List LogEntry} (h : before.LogsAlso t entries)
    (young : ∀ e ∈ entries, e.row.isOlder cutoff = false)
    : t.aged cutoff = before.aged cutoff := by
  ext number
  rw [mem_aged_iff, mem_aged_iff]
  by_cases taken : ∃ e ∈ entries, e.number = number
  · obtain ⟨e, member, rfl⟩ := taken
    have new : before.logRows.find? e.number = none := by
      simpa [Table.contains] using h.new e member
    rw [h.added e member, new]
    simp [young e member]
  · rw [h.kept number fun e member same => taken ⟨e, member, same⟩]

end Tables

-----------------------------------------------------------------------------------------
-- Removing them
-----------------------------------------------------------------------------------------

namespace Store

variable {s after : Store} {cutoff : Instant} {rows : Table LogRow}

/-- Pruning counts and removes the entries that are older than the cutoff, if the store accepts it. -/
theorem yields_prune (present : s.tables.log = some rows)
    (accepted : cutoff.bound.isStorable = true)
    : s.Yields (Log.prune cutoff) (s.tables.aged (some cutoff)).ncard
        { s with tables := s.tables.withoutAged (some cutoff) } := by
  have count : (s.tables.aged (some cutoff)).ncard
      = rows.count fun _ row => row.isOlder (some cutoff) := by
    rw [Table.count_eq_ncard, ← Tables.logRows_of_log present]
    exact congrArg Set.ncard (Set.ext fun number => Tables.mem_aged_iff)
  have pruned : s.tables.withoutAged (some cutoff)
      = s.tables.setLog (rows.filter fun _ row => !row.isOlder (some cutoff)) := by
    rw [Tables.withoutAged, present]
    rfl
  rw [count, pruned]
  simp only [Log.prune, yields_bind_iff, yields_logTable_iff, accepted, Bool.not_true,
    Bool.false_eq_true, if_false, yields_putLog_iff, yields_pure_iff]
  exact ⟨rows, s, ⟨present, rfl⟩, (), _, rfl, rfl, rfl⟩

/-- Pruning stops before it removes anything if the store refuses the cutoff. -/
theorem stops_prune (present : s.tables.log = some rows)
    (refused : cutoff.bound.isStorable = false)
    : s.Stops (Log.prune cutoff) (.database .instantOutOfRange) s := by
  simp only [Log.prune, stops_bind_iff, yields_logTable_iff, refused, Bool.not_false, if_true,
    stops_refuse_iff]
  exact .inr ⟨rows, s, ⟨present, rfl⟩, .inl ⟨trivial, rfl⟩⟩

end Store

/-- Cleaning the log up counts and removes the entries that are older than the cutoff, and changes
nothing else. If the store refuses the cutoff it does nothing; so there must be no such entry then.
-/
theorem Database.run_cleanUpLog {d : Database} {days : Int} {cutoff : Option Instant}
    {rows : Table LogRow} (reachable : d.reachable = true) (present : d.store.tables.log = some rows)
    (reached : d.clock.daysBefore? days = cutoff)
    (none_refused : ∀ limit, cutoff = some limit → limit.bound.isStorable = false →
      d.store.tables.aged cutoff = ∅)
    : (cleanUpLog days).run d
        = ((d.store.tables.aged cutoff).ncard,
          { d with store := { d.store with tables := d.store.tables.withoutAged cutoff } }) := by
  rw [cleanUpLog, Session.run_bind, Session.run_get, reached]
  cases cutoff with
  | none =>
      have nothing : d.store.tables.aged none = ∅ := by
        simp [Tables.aged]
      rw [nothing, Tables.withoutAged_eq_self nothing, Set.ncard_empty]
      rfl
  | some limit =>
      dsimp only
      rw [Session.run_bind, pruneLog, run_perform, if_pos reachable]
      cases accepted : limit.bound.isStorable with
      | true =>
          rw [(Store.yields_prune present accepted).perform_eq]
          rfl
      | false =>
          have nothing := none_refused limit rfl accepted
          rw [(Store.stops_prune present accepted).perform_eq, nothing,
            Tables.withoutAged_eq_self nothing, Set.ncard_empty]
          rfl

/-- When no entry is older than the cutoff, cleaning the log up does nothing. -/
theorem Database.run_cleanUpLog_of_young {d : Database} {days : Int} {rows : Table LogRow}
    (reachable : d.reachable = true) (present : d.store.tables.log = some rows)
    (young : d.store.tables.aged (d.clock.daysBefore? days) = ∅)
    : (cleanUpLog days).run d = (0, d) := by
  rw [run_cleanUpLog reachable present rfl fun _ _ _ => young, young,
    Tables.withoutAged_eq_self young, Set.ncard_empty]

end AdoptionRecords
