import AdoptionRecords.Columns
import AdoptionRecords.Store.Tables

/-! Work on the store. A unit of work runs statements one after another and stops at the first
that fails. When it stops early its changes to the tables are undone, but the keys that it
drew stay drawn.
-/

namespace AdoptionRecords

open Calendar Text

/-- The keys that are drawn next, for the live tables and for the log. -/
structure Sequences where
  live : Kind → Int
  log : Int

/-- The tables of the store, and the keys drawn next. -/
structure Store where
  tables : Tables
  sequences : Sequences

/-- Work on the store that yields a value or stops at a fault. -/
abbrev Work := ExceptT Fault (StateM Store)

namespace Store

/-- The sequences at their start. -/
def firstKeys : Sequences where
  live _ := 1
  log := 1

/-- The store before its schema is applied. -/
def unmigrated : Store where
  tables := .absent
  sequences := firstKeys

/-- Runs work on the store. -/
def run {α : Type} (s : Store) (work : Work α) : Except Fault α × Store :=
  StateT.run (ExceptT.run work) s

/-- Performs a unit of work: if it fails, the tables are as they were before. -/
def perform {α : Type} (s : Store) (work : Work α) : Except Fault α × Store :=
  match s.run work with
  | (.ok value, after) => (.ok value, after)
  -- Keys are drawn outside of units of work, so that nobody waits for another's to end.
  | (.error fault, after) => (.error fault, { s with sequences := after.sequences })

/-- Looks at the store without changing it. -/
def ask {α : Type} (s : Store) (work : Work α) : Except Fault α :=
  (s.run work).1

/-- Work that only yields a value leaves the store as it is. -/
theorem run_pure {α : Type} (s : Store) (value : α) : s.run (pure value) = (.ok value, s) :=
  rfl

/-- Work that stops at once leaves the store as it is. -/
theorem run_throw {α : Type} (s : Store) (fault : Fault)
    : s.run (throw fault : Work α) = (.error fault, s) :=
  rfl

/-- Work in two parts goes on with the second part where the first left the store, unless the
first stopped.
-/
theorem run_bind {α β : Type} (s : Store) (first : Work α) (second : α → Work β)
    : s.run (first >>= second) =
      match s.run first with
      | (.ok value, after) => after.run (second value)
      | (.error fault, after) => (.error fault, after) := by
  show StateT.run (ExceptT.run (first >>= second)) s = _
  simp only [ExceptT.run_bind, StateT.run_bind, run]
  cases StateT.run (ExceptT.run first) s with
  | mk result after => cases result <;> rfl

/-- A unit of work that fails leaves the tables as they were. -/
theorem tables_perform_of_error {α : Type} {s after : Store} {work : Work α} {fault : Fault}
    (h : s.perform work = (.error fault, after))
    : after.tables = s.tables := by
  unfold perform at h
  split at h
  · cases h
  · cases h
    rfl

/-- The store without a table. The sequence of the table goes with it. -/
def dropTable (s : Store) (id : TableId) : Store where
  tables := s.tables.drop id
  sequences :=
    match id with
    | .live kind =>
        { s.sequences with live := fun k => if k = kind then 1 else s.sequences.live k }
    | .log => { s.sequences with log := 1 }
    | .archive _ | .ledger => s.sequences

/-- The store with another key to be drawn next for a table. -/
def setSequence (s : Store) (id : TableId) (next : Int) : Store :=
  match id with
  | .live kind =>
      { s with
        sequences.live := fun k => if k = kind then next else s.sequences.live k }
  | .log => { s with sequences.log := next }
  | .archive _ | .ledger => s

end Store

namespace Work

/-- Stops the work because a statement fails. -/
def refuse {α : Type} (cause : StoreError) : Work α :=
  throw (.database cause)

/-- A table that a statement names; the statement is refused if there is none. -/
def present {α : Type} (id : TableId) : Option α → Work α
  | some table => pure table
  | none => refuse (.missingTable id.name)

/-- The live table of a kind. -/
def liveTable (kind : Kind) : Work (Table (LiveRow kind)) := do
  present (.live kind) ((← get).tables.live kind)

/-- The archive table of a kind. -/
def archiveTable (kind : Kind) : Work (Table (ArchivedRow kind)) := do
  present (.archive kind) ((← get).tables.archive kind)

/-- The log. -/
def logTable : Work (Table LogRow) := do
  present .log (← get).tables.log

/-- Puts rows in the live table of a kind. -/
def putLive (kind : Kind) (rows : Table (LiveRow kind)) : Work Unit :=
  modify fun s => { s with tables := s.tables.setLive kind rows }

/-- Puts rows in the archive table of a kind. -/
def putArchive (kind : Kind) (rows : Table (ArchivedRow kind)) : Work Unit :=
  modify fun s => { s with tables := s.tables.setArchive kind rows }

/-- Puts rows in the log. -/
def putLog (rows : Table LogRow) : Work Unit :=
  modify fun s => { s with tables := s.tables.setLog rows }

/-- Refuses texts that the store cannot hold. -/
def checkTexts (texts : List String) : Work Unit :=
  if texts.any hasNul then refuse .textWithNul else pure ()

/-- Refuses dates that the store cannot hold. -/
def checkDates (dates : List Date) : Work Unit :=
  if dates.all Date.isStorable then pure () else refuse .dateOutOfRange

/-- The name of the rule that keys of a table are distinct. -/
def primaryKey (id : TableId) : String :=
  id.name ++ "_pkey"

/-- Refuses a key that is taken. -/
def checkFree {α : Type} (id : TableId) (rows : Table α) (key : Int) : Work Unit :=
  if rows.contains key then refuse (.duplicateKey (primaryKey id)) else pure ()

/-- Refuses a row of a table in which a column is empty that must not be. -/
def checkFilled (id : TableId) (columns : Shape) (cells : List Cell) : Work Unit :=
  match columns.gap? cells with
  | some column => refuse (.emptyColumn id.name column)
  | none => pure ()

/-- Refuses a user whose role is not a known one. -/
def checkContent : (kind : Kind) → Content kind → Work Unit
  | .user, content =>
      if content.roleName.all fun name => (Role.read? name).isSome then pure ()
      else refuse (.checkViolated Kind.user.liveTable "users_role_check")
  | _, _ => pure ()

/-- Refuses a live row that the rules of its table forbid. -/
def checkLive (kind : Kind) (row : LiveRow kind) : Work Unit := do
  checkFilled (.live kind) (LiveRow.columns kind) row.cells
  checkContent kind row.content

/-- Stops at a row of an answer in which a value is missing that must be there. -/
def checkAnswer (columns : Shape) (cells : List Cell) : Work Unit :=
  match columns.gap? cells with
  | some column => refuse (.missingValue (.named column))
  | none => pure ()

/-- The greatest key that a live table's sequence gives. -/
def greatestLiveKey : Int :=
  Decimal.max32

/-- The greatest number that the log's sequence gives. -/
def greatestLogNumber : Int :=
  Decimal.max64

/-- Draws the next key of a live table. -/
def drawLive (kind : Kind) : Work Int := do
  let key := (← get).sequences.live kind
  if greatestLiveKey < key then
    refuse (.sequenceExhausted s!"{kind.liveTable}_{kind.keyColumn}_seq" greatestLiveKey)
  modify fun s => s.setSequence (.live kind) (key + 1)
  return key

/-- Draws the next number of the log. -/
def drawLog : Work Int := do
  let number := (← get).sequences.log
  if greatestLogNumber < number then
    refuse (.sequenceExhausted s!"{TableId.log.name}_log_id_seq" greatestLogNumber)
  modify fun s => s.setSequence .log (number + 1)
  return number

/-- Creates a live row under the key that its table's sequence gives. -/
def createLive (kind : Kind) (content : Content kind) : Work Int := do
  let rows ← liveTable kind
  checkTexts (Content.texts kind content)
  checkDates (Content.dates kind content)
  -- The key is drawn before the row is checked, and stays drawn if the row is refused.
  let key ← drawLive kind
  let row := LiveRow.fresh content
  checkLive kind row
  checkFree (.live kind) rows key
  putLive kind (rows.insert key row)
  return key

/-- Changes the live rows of a kind that pass a test, and tells how many there are. -/
def updateLive (kind : Kind) (test : LiveRow kind → Bool) (change : LiveRow kind → LiveRow kind)
    : Work Nat := do
  let rows ← liveTable kind
  rows.entries.forM fun (_, row) => if test row then checkLive kind (change row) else pure ()
  putLive kind (rows.map fun _ row => if test row then change row else row)
  return rows.count fun _ row => test row

end Work

end AdoptionRecords
