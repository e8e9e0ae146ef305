import AdoptionRecords.Proofs.Store.Running
import AdoptionRecords.Log

/-! The entries that the log holds. A row of the log is read back as the entry that was written; a
new entry is the last one as long as numbers ascend; and the history of a record is what the log
holds about it, in order.
-/

namespace AdoptionRecords

open Calendar

/-- A row inserted under a key above all others is the last entry, by induction on the entries. -/
theorem Table.entries_insert_above {α : Type} {t : Table α} {key : Int} {row : α}
    (above : ∀ entry ∈ t.entries, entry.1 < key)
    : (t.insert key row).entries = t.entries ++ [(key, row)] := by
  obtain ⟨entries, sorted⟩ := t
  show insertEntry key row entries = entries ++ [(key, row)]
  induction entries with
  | nil => rfl
  | cons head rest ih =>
      obtain ⟨first, above⟩ := List.forall_mem_cons.mp above
      have notLess : ¬ key < head.1 := by omega
      have notSame : key ≠ head.1 := by omega
      rw [insertEntry, if_neg notLess, if_neg notSame,
        ih (List.pairwise_cons.mp sorted).2 above]
      rfl

@[simp]
theorem Operation.read?_name (operation : Operation)
    : Operation.read? operation.name = some operation := by
  cases operation <;> decide

/-- No two kinds have the same live table. -/
theorem Kind.liveTable_injective {left right : Kind} (h : left.liveTable = right.liveTable)
    : left = right := by
  cases left <;> cases right <;> simp_all [liveTable]

/-- The row that holds a log entry is read back as that entry. -/
theorem LogEntry.entry_row (e : LogEntry) : e.row.entry e.number = .ok e := by
  simp only [LogRow.entry, LogEntry.row, answered, bind, Except.bind, Operation.read?_name]
  rfl

/-- Once an entry takes the next number, the numbers taken are below the one that follows. -/
theorem LogEntry.below_append {entries : List LogEntry} {last : LogEntry} {next : Int}
    (below : ∀ e ∈ entries, e.number < next) (same : last.number = next)
    : ∀ e ∈ entries ++ [last], e.number < next + 1 := by
  intro e member
  rcases List.mem_append.mp member with earlier | taken
  · exact Int.lt_add_one_of_le (Int.le_of_lt (below e earlier))
  · rw [List.mem_singleton.mp taken, same]
    exact Int.lt_succ next

/-- Whether a log entry is about a record. -/
def LogEntry.isAbout (kind : Kind) (key : Int) (e : LogEntry) : Bool :=
  e.table == kind.liveTable && e.record == key

/-- (e.TellsOf t made) holds if a log entry tells of a transition that was made at an instant: from
which live table or to which, of which record, what was done, by whom, when and why.
-/
structure LogEntry.TellsOf (e : LogEntry) (t : Transition) (made : Instant) : Prop where
  table : e.table = t.kind.liveTable
  record : e.record = t.key
  operation : e.operation = t.operation
  performedBy : e.performedBy = t.actor
  performedAt : e.performedAt = made
  reason : e.reason = some t.reason

/-- The entry of a transition tells of it. -/
theorem Transition.tellsOf_entry (t : Transition) (number : Int) (made : Instant)
    : (t.entry number made).TellsOf t made :=
  ⟨rfl, rfl, rfl, rfl, rfl, rfl⟩

/-- An entry that tells of a transition is about its record only. -/
theorem LogEntry.TellsOf.isAbout_iff {e : LogEntry} {t : Transition} {made : Instant} {kind : Kind}
    {key : Int} (h : e.TellsOf t made)
    : e.isAbout kind key = true ↔ t.kind = kind ∧ t.key = key := by
  simp only [isAbout, h.table, h.record, Bool.and_eq_true, beq_iff_eq]
  exact and_congr_left' ⟨Kind.liveTable_injective, congrArg _⟩

/-- The log holds entries: a row for each of them under its number, and no other row. -/
def Tables.Logs (t : Tables) (entries : List LogEntry) : Prop :=
  ∃ rows, t.log = some rows
    ∧ rows.entries = entries.map fun e =>
        (e.number,
          { table := some e.table, record := some e.record
            operationName := some e.operation.name, performedBy := e.performedBy
            performedAt := some e.performedAt, reason := e.reason })

namespace Tables.Logs

variable {t : Tables} {entries : List LogEntry}

/-- The rows of the log are those in which its entries are written. -/
theorem rows_eq (h : t.Logs entries)
    : ∃ rows, t.log = some rows ∧ rows.entries = entries.map fun e => (e.number, e.row) :=
  h

/-- The entries that the log holds stand in the order of their numbers, and no two share one. -/
theorem ascending (h : t.Logs entries) : entries.Pairwise fun a b => a.number < b.number := by
  obtain ⟨rows, -, same⟩ := h
  have sorted := rows.sorted
  rw [same, List.pairwise_map] at sorted
  exact sorted

/-- An entry with a number above all others is the last that the log holds. -/
theorem insert {rows : Table LogRow} (h : t.Logs entries) (entry : LogEntry)
    (present : t.log = some rows) (above : ∀ e ∈ entries, e.number < entry.number)
    : (t.setLog (rows.insert entry.number entry.row)).Logs (entries ++ [entry]) := by
  obtain ⟨rows', present', same⟩ := h
  rw [present] at present'
  cases present'
  refine ⟨_, rfl, ?_⟩
  rw [Table.entries_insert_above, same, List.map_append]
  · rfl
  · rw [same]
    simpa using above

end Tables.Logs

namespace Store

variable {s : Store}

/-- Entries are read back one after another, by induction on them. -/
theorem yields_mapM_entry (entries : List LogEntry)
    : s.Yields ((entries.map fun e => (e.number, e.row)).mapM fun (entry : Int × LogRow) =>
        (liftM (entry.2.entry entry.1) : Work LogEntry)) entries s := by
  induction entries with
  | nil => simp
  | cons e rest ih =>
      simp only [List.map_cons, List.mapM_cons, LogEntry.entry_row, yields_bind_iff,
        yields_lift_iff, yields_pure_iff]
      exact ⟨e, s, ⟨rfl, rfl⟩, rest, s, ih, rfl, rfl⟩

/-- The history of a record is what the log holds about it. -/
theorem ask_history {entries : List LogEntry} (h : s.tables.Logs entries) (kind : Kind) (key : Int)
    : s.ask (Log.history kind key) = .ok (entries.filter (·.isAbout kind key)) := by
  obtain ⟨rows, present, same⟩ := h.rows_eq
  have about : (Log.rowsAbout rows kind key).entries
      = (entries.filter (·.isAbout kind key)).map fun e => (e.number, e.row) := by
    simp only [Log.rowsAbout, Table.filter, same, List.filter_map]
    rfl
  have read : s.Yields (Log.history kind key) (entries.filter (·.isAbout kind key)) s := by
    simp only [Log.history, yields_bind_iff, yields_logTable_iff]
    refine ⟨rows, s, ⟨present, rfl⟩, ?_⟩
    rw [about]
    exact yields_mapM_entry _
  exact read.ask_eq

end Store

end AdoptionRecords
