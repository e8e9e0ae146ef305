import AdoptionRecords.Store.Work

/-! The log of transitions: its entries are written once, read in the order of their numbers or
latest first, and removed only when they are older than a cutoff.
-/

namespace AdoptionRecords

open Calendar

/-- The row that holds a log entry. -/
def LogEntry.row (e : LogEntry) : LogRow where
  table := some e.table
  record := some e.record
  operationName := some e.operation.name
  performedBy := e.performedBy
  performedAt := some e.performedAt
  reason := e.reason

/-- The entry that a row holds under its number; nothing of it may be missing, and its operation
must be a known one.
-/
def LogRow.entry (number : Int) (row : LogRow) : Except Fault LogEntry := do
  -- The name of the operation is taken first, but looked at only after the table and the record.
  let name ← answered "operation" row.operationName
  let table ← answered "table_name" row.table
  let record ← answered "record_id" row.record
  match Operation.read? name with
  | none => throw (.unknownOperation name)
  | some operation =>
      let performedAt ← answered "operation_date" row.performedAt
      return { number, table, record, operation, performedBy := row.performedBy, performedAt,
               reason := row.reason }

/-- A step between tables, or out of them, that somebody asks for. -/
structure Transition where
  operation : Operation
  kind : Kind
  key : Int
  actor : Option Int
  reason : String
  deriving DecidableEq, Repr

/-- The log entry of a transition, with the number it gets and the instant of its record. -/
def Transition.entry (t : Transition) (number : Int) (now : Instant) : LogEntry where
  number
  table := t.kind.liveTable
  record := t.key
  operation := t.operation
  performedBy := t.actor
  performedAt := now
  reason := some t.reason

namespace Log

/-- Writes the log entry of a transition. -/
def record (t : Transition) (now : Instant) : Work LogEntry := do
  let rows ← Work.logTable
  Work.checkTexts [t.reason]
  let number ← Work.drawLog
  Work.checkFree .log rows number
  let entry := t.entry number now
  Work.putLog (rows.insert number entry.row)
  return entry

/-- The number of entries in the log. -/
def count : Work Nat := do
  return (← Work.logTable).size

/-- The rows about one record. -/
def rowsAbout (rows : Table LogRow) (kind : Kind) (key : Int) : Table LogRow :=
  rows.filter fun _ row => row.table == some kind.liveTable && row.record == some key

/-- The entries about one record, in the order in which they were numbered. -/
def history (kind : Kind) (key : Int) : Work (List LogEntry) := do
  let rows ← Work.logTable
  (rowsAbout rows kind key).entries.mapM fun (number, row) => row.entry number

/-- One row comes before another when it is later, or as late and its number is greater. A row
without an instant comes before those with one.
-/
def newerFirst (a b : Int × LogRow) : Bool :=
  match a.2.performedAt, b.2.performedAt with
  | some x, some y => y < x || (x == y && b.1 ≤ a.1)
  | none, some _ => true
  | some _, none => false
  | none, none => b.1 ≤ a.1

/-- The rows of one kind, or all of them. -/
def rowsOf (rows : Table LogRow) : Option Kind → Table LogRow
  | some kind => rows.filter fun _ row => row.table == some kind.liveTable
  | none => rows

/-- The latest entries of one kind or of all, at most the given number. -/
def recent (limit : Int) (kind : Option Kind) : Work (List LogEntry) := do
  let rows ← Work.logTable
  let latest := ((rowsOf rows kind).entries.mergeSort newerFirst).take limit.toNat
  latest.mapM fun (number, row) => row.entry number

/-- How many entries are shown when nobody says. -/
def standardLimit : Int :=
  20

/-- Removes the entries before a cutoff and tells how many they were. -/
def prune (cutoff : Instant) : Work Nat := do
  let rows ← Work.logTable
  -- The cutoff is compared as the store keeps it, in whole microseconds.
  let cutoff := cutoff.bound
  if !cutoff.isStorable then
    Work.refuse .instantOutOfRange
  let isBefore (row : LogRow) : Bool := row.performedAt.any (· < cutoff)
  Work.putLog (rows.filter fun _ row => !isBefore row)
  return rows.count fun _ row => isBefore row

end Log

end AdoptionRecords
