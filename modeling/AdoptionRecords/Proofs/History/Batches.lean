import AdoptionRecords.Proofs.History.Appending
import AdoptionRecords.Proofs.Store.Completions

/-! The log entries of transitions that were completed one after another: one for each of them, in
their order and under consecutive numbers, beside the rows that the log held before.
-/

namespace AdoptionRecords

open Calendar

namespace Transition

/-- The log entries of transitions that are completed now, numbered on from a given number. -/
def entries (now : Instant) (number : Int) : List Transition → List LogEntry
  | [] => []
  | t :: rest =>
      { number
        table := t.kind.liveTable
        record := t.key
        operation := t.operation
        performedBy := t.actor
        performedAt := now
        reason := some t.reason } :: entries now (number + 1) rest

variable {now : Instant} {number : Int}

@[simp]
theorem length_entries (ts : List Transition) : (entries now number ts).length = ts.length := by
  induction ts generalizing number with
  | nil => rfl
  | cons t rest ih => rw [entries, List.length_cons, List.length_cons, ih]

/-- Entries are numbered from the given number on, and written now; by induction on the
transitions.
-/
theorem le_of_mem_entries {ts : List Transition}
    : ∀ e ∈ entries now number ts, number ≤ e.number ∧ e.performedAt = now := by
  induction ts generalizing number with
  | nil => simp [entries]
  | cons t rest ih =>
      refine List.forall_mem_cons.mpr ⟨⟨Int.le_refl _, rfl⟩, ?_⟩
      intro e member
      obtain ⟨above, written⟩ := ih e member
      exact ⟨by omega, written⟩

/-- The numbers of entries ascend, by induction on the transitions. -/
theorem ascending_entries (ts : List Transition)
    : (entries now number ts).Pairwise fun a b => a.number < b.number := by
  induction ts generalizing number with
  | nil => exact .nil
  | cons t rest ih =>
      refine List.pairwise_cons.mpr ⟨?_, ih⟩
      intro e member
      have above := (le_of_mem_entries e member).1
      show number < e.number
      omega

end Transition

namespace Tables

/-- The log has taken entries under numbers that it had not given to a row, and holds its other rows
as before.
-/
structure LogsAlso (before after : Tables) (entries : List LogEntry) : Prop where
  new : ∀ e ∈ entries, before.logRows.contains e.number = false
  added : ∀ e ∈ entries, after.logRows.find? e.number = some e.row
  kept : ∀ number, (∀ e ∈ entries, e.number ≠ number) →
    after.logRows.find? number = before.logRows.find? number

/-- Entries whose numbers ascend are what a log that has taken them has been appended. -/
theorem LogsAlso.appended_eq {before after : Tables} {entries : List LogEntry}
    (h : before.LogsAlso after entries) (ascending : entries.Pairwise fun a b => a.number < b.number)
    : before.appended after = entries.map fun e => (e.number, e.row) := by
  refine Table.entries_eq_of_mem_iff (Table.sorted _) (List.pairwise_map.mpr ascending) ?_
  intro (number, row)
  rw [appended, ← Table.find?_eq_some_iff, Table.find?_filter, Option.filter_eq_some_iff, List.mem_map]
  constructor
  · rintro ⟨found, new⟩
    by_cases taken : ∃ e ∈ entries, e.number = number
    · obtain ⟨e, member, rfl⟩ := taken
      rw [h.added e member] at found
      cases found
      exact ⟨e, member, rfl⟩
    · rw [h.kept number fun e member same => taken ⟨e, member, same⟩] at found
      simp [Table.contains, found] at new
  · rintro ⟨e, member, same⟩
    cases same
    exact ⟨h.added e member, by simp [h.new e member]⟩

end Tables

/-- Completed transitions add their entries to the log, by induction on them. -/
theorem Store.CompletedAll.logsAlso {s after : Store} {now : Instant} {ts : List Transition}
    (h : s.CompletedAll now ts after)
    : s.tables.LogsAlso after.tables (Transition.entries now s.sequences.log ts) := by
  induction h with
  | nil => exact ⟨by simp [Transition.entries], by simp [Transition.entries], fun _ _ => rfl⟩
  | @cons s middle after t rest head tail ih =>
      obtain ⟨rows, present, free, logged⟩ := head.logged
      have before : s.tables.logRows = rows := Tables.logRows_of_log present
      have between := Tables.logRows_of_log logged
      have next : middle.sequences.log = s.sequences.log + 1 := by
        rw [head.sequences]
      rw [next] at ih
      -- The numbers of the later entries are above that of the first.
      have later : ∀ e ∈ Transition.entries now (s.sequences.log + 1) rest,
          e.number ≠ s.sequences.log := by
        intro e member
        have above := (Transition.le_of_mem_entries e member).1
        omega
      refine ⟨List.forall_mem_cons.mpr ⟨?_, ?_⟩, List.forall_mem_cons.mpr ⟨?_, ih.added⟩, ?_⟩
      · rw [before]
        exact free
      · intro e member
        have new := ih.new e member
        rwa [between, Table.contains, Table.find?_insert_of_ne _ (later e member), ← Table.contains,
          ← before] at new
      · have kept := ih.kept s.sequences.log later
        rw [between, Table.find?_insert, if_pos rfl] at kept
        exact kept
      · intro number apart
        obtain ⟨own, others⟩ := List.forall_mem_cons.mp apart
        have own : s.sequences.log ≠ number := own
        rw [ih.kept number others, between, Table.find?_insert_of_ne _ own.symm, before]

/-- Completed transitions append their entries to the log, in their order. -/
theorem Store.CompletedAll.appended_eq {s after : Store} {now : Instant} {ts : List Transition}
    (h : s.CompletedAll now ts after)
    : s.tables.appended after.tables
        = (Transition.entries now s.sequences.log ts).map fun e => (e.number, e.row) :=
  h.logsAlso.appended_eq (Transition.ascending_entries ts)

end AdoptionRecords
