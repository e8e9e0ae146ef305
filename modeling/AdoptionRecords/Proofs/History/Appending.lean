import AdoptionRecords.Proofs.History.LogReplay

/-! What requests append to the log, on a store of which nothing is known. The rows that the log holds
after them, and did not hold before, are those of the entries of their deeds, in their order, as
long as they remove no row.
-/

namespace AdoptionRecords

open Calendar

namespace Tables

/-- The rows that the log holds after, but did not hold before, with their numbers and in their
order.
-/
def appended (before after : Tables) : List (Int × LogRow) :=
  (after.logRows.filter fun number _ => !before.logRows.contains number).entries

/-- A log that holds only rows that were there before has nothing appended to it. -/
theorem appended_eq_nil {before after : Tables}
    (h : ∀ number, after.logRows.contains number = true → before.logRows.contains number = true)
    : before.appended after = [] := by
  rw [appended, Table.filter, List.filter_eq_nil_iff]
  rintro ⟨number, row⟩ member
  have found : after.logRows.contains number = true :=
    Table.contains_iff.mpr ⟨row, Table.find?_eq_some_iff.mpr member⟩
  simp [h number found]

/-- A row with a number that is new, and above all appended so far, is appended last. -/
theorem appended_insert {before : Tables} {rows : Table LogRow} {number : Int} (row : LogRow)
    (new : before.logRows.contains number = false)
    (above : ∀ entry ∈ (rows.filter fun n _ => !before.logRows.contains n).entries,
      entry.1 < number)
    : ((rows.insert number row).filter fun n _ => !before.logRows.contains n).entries
        = (rows.filter fun n _ => !before.logRows.contains n).entries ++ [(number, row)] := by
  have commutes : (rows.insert number row).filter (fun n _ => !before.logRows.contains n)
      = (rows.filter fun n _ => !before.logRows.contains n).insert number row := by
    ext1 key
    rw [Table.find?_filter, Table.find?_insert, Table.find?_insert, Table.find?_filter]
    by_cases own : key = number
    · simp [own, new]
    · simp [own]
  rw [commutes, Table.entries_insert_above above]

end Tables

namespace Store

/-- A run from a store has appended the entries of its deeds to the log, and lost no row of it. -/
structure Appends (before : Store) (past : List Deed) (s : Store) : Prop where
  rows : before.tables.appended s.tables
    = (past.filterMap Deed.entry?).map fun e => (e.number, e.row)
  below : ∀ e ∈ past.filterMap Deed.entry?, e.number < s.sequences.log
  kept : ∀ number, before.tables.logRows.contains number = true →
    s.tables.logRows.contains number = true

namespace Appends

variable {before s after : Store} {past : List Deed} {now : Instant}

theorem refl (s : Store) : s.Appends [] s where
  rows := Tables.appended_eq_nil fun _ found => found
  below := by simp
  kept := fun _ found => found

/-- What leaves the log alone, and has no entry, appends nothing. -/
theorem append_silent {silent : List Deed} (h : before.Appends past s)
    (log : after.tables.logRows = s.tables.logRows) (sequences : s.sequences ≤ after.sequences)
    (none : silent.filterMap Deed.entry? = [])
    : before.Appends (past ++ silent) after := by
  have entries : (past ++ silent).filterMap Deed.entry? = past.filterMap Deed.entry? := by
    rw [List.filterMap_append, none, List.append_nil]
  refine ⟨?_, ?_, ?_⟩
  · rw [entries, ← h.rows, Tables.appended, Tables.appended, log]
  · rw [entries]
    exact fun e member => Int.lt_of_lt_of_le (h.below e member) sequences.2
  · rw [log]
    exact h.kept

/-- An entry with the next number is appended after those of the deeds so far. -/
theorem append_entry {deed : Deed} {t : Transition} {tables : Tables} {rows : Table LogRow}
    (h : before.Appends past s) (log : tables.log = s.tables.log) (present : tables.log = some rows)
    (free : rows.contains s.sequences.log = false)
    (entered : deed.entry? = some (t.entry s.sequences.log now))
    : before.Appends (past ++ [deed])
        { s.numbered with
          tables := tables.setLog
            (rows.insert s.sequences.log (t.entry s.sequences.log now).row) } := by
  have entries : (past ++ [deed]).filterMap Deed.entry?
      = past.filterMap Deed.entry? ++ [t.entry s.sequences.log now] := by
    simp [entered]
  have held : s.tables.logRows = rows := Tables.logRows_of_log (log.symm.trans present)
  have new : before.tables.logRows.contains s.sequences.log = false := by
    by_contra there
    rw [Bool.not_eq_false] at there
    have kept := h.kept _ there
    rw [held, free] at kept
    cases kept
  have so_far := h.rows
  rw [Tables.appended, held] at so_far
  refine ⟨?_, ?_, ?_⟩
  · have above : ∀ entry ∈ (rows.filter fun n _ => !before.tables.logRows.contains n).entries,
        entry.1 < s.sequences.log := by
      rw [so_far]
      intro entry member
      obtain ⟨e, earlier, rfl⟩ := List.mem_map.mp member
      exact h.below e earlier
    rw [Tables.appended, Tables.logRows_of_log (Tables.setLog_log ..),
      Tables.appended_insert _ new above, so_far, entries, List.map_append]
    rfl
  · rw [entries]
    exact LogEntry.below_append h.below rfl
  · intro number found
    have kept := h.kept number found
    rw [held, Table.contains_iff] at kept
    obtain ⟨row, kept⟩ := kept
    rw [Tables.logRows_of_log (Tables.setLog_log ..), Table.contains, Table.find?_insert]
    split
    · rfl
    · rw [kept]
      rfl

/-- Every change but the removal of rows goes on appending to the log. -/
theorem step {c : Change} (h : before.Appends past s) (made : s.Makes now c after)
    (kept : ∀ keep, c ≠ .prune keep)
    : before.Appends (past ++ c.deeds) after := by
  have sequences := made.sequences_le
  cases made with
  | create | amend => exact h.append_silent rfl sequences rfl
  | transition moves present free => exact h.append_entry moves.log_eq present free rfl
  | note present free => exact h.append_entry rfl present free rfl
  | prune => exact (kept _ rfl).elim
  | complete =>
      refine h.append_silent ?_ sequences rfl
      cases present : s.tables.log <;> simp [Tables.logRows, Tables.complete, present]

end Appends

/-- A run that only removes rows of the log appends nothing to it. -/
theorem Runs.appended_of_prunes {now : Instant} {s after : Store} {deeds : List Deed}
    (h : s.Runs now (fun _ c => ∃ keep, c = .prune keep) deeds after)
    : s.tables.appended after.tables = [] := by
  let holds (_ : List Deed) (t : Store) : Prop :=
    ∀ number, t.tables.logRows.contains number = true → s.tables.logRows.contains number = true
  have run : holds deeds after := by
    refine @Runs.preserves now _ s after deeds holds h ?_ ?_ [] fun _ found => found
    · intro past t after held tables _
      simpa only [holds, tables] using held
    · intro past t c after held allowed made
      obtain ⟨keep, rfl⟩ := allowed
      cases made with
      | @prune _ rows present =>
          intro number found
          refine held number ?_
          rw [Tables.logRows_of_log (Tables.setLog_log ..), Table.contains_iff] at found
          obtain ⟨row, found⟩ := found
          rw [Table.find?_filter, Option.filter_eq_some_iff] at found
          rw [Tables.logRows_of_log present]
          exact Table.contains_iff.mpr ⟨row, found.1⟩
  exact Tables.appended_eq_nil run

end Store

/-- Requests that remove no row of the log append the entries of their deeds to it. -/
theorem Database.appended_after (d : Database) {requests : List Request}
    (kept : ∀ r ∈ requests, ¬ r.Prunes)
    : d.store.tables.appended (d.after requests).store.tables
        = ((d.deeds requests).filterMap Deed.entry?).map fun e => (e.number, e.row) := by
  have throughout : d.Throughout (fun _ r => ¬ r.Prunes) requests :=
    .of_forall (fun r member _ => kept r member) d
  refine (preserves d.store.Appends ?_ ?_ throughout (.refl d.store)).rows
  · intro past s after held tables sequences
    have silent : d.store.Appends (past ++ []) after :=
      held.append_silent (by rw [tables]) sequences rfl
    rwa [List.append_nil] at silent
  · intro _ r past s c after keeps caused held made
    refine held.step made ?_
    rintro keep rfl
    exact Request.not_causes_prune keeps caused

end AdoptionRecords
