import AdoptionRecords.Record
import AdoptionRecords.Fault
import AdoptionRecords.Store.Table

/-! The tables of the store. Each kind has a live table and an archive table; the log and the
ledger of applied schema changes complete them. Any table may be missing, as it is before the
schema is applied. A change to one table leaves the others as they were.
-/

namespace AdoptionRecords

open Calendar

/-- The names by which the store knows its tables. -/
inductive TableId
  | live (kind : Kind)
  | archive (kind : Kind)
  | log
  | ledger
  deriving DecidableEq, Repr

namespace TableId

/-- Every table, live tables first. -/
def all : List TableId :=
  Kind.declared.map live ++ Kind.declared.map archive ++ [log, ledger]

/-- The name of a table. -/
def name : TableId → String
  | live kind => kind.liveTable
  | archive kind => kind.archiveTable
  | log => "tbl_archive_log"
  | ledger => "_sqlx_migrations"

/-- The table with a given name. -/
def read? (s : String) : Option TableId :=
  all.find? fun id => id.name == s

end TableId

/-- A row of the ledger of applied schema changes, whose key is the version. A row that was not
written by applying a change has no checksum of it.
-/
structure LedgerRow where
  description : Option String
  installed : Option Instant
  success : Option Bool
  hasChecksum : Bool
  deriving DecidableEq, Repr

/-- The tables of the store; a missing table is `none`. -/
structure Tables where
  live : (kind : Kind) → Option (Table (LiveRow kind))
  archive : (kind : Kind) → Option (Table (ArchivedRow kind))
  log : Option (Table LogRow)
  ledger : Option (Table LedgerRow)

namespace Tables

/-- A family over the kinds with its member at one kind replaced. -/
def replaceAt {F : Kind → Type} (family : (kind : Kind) → F kind) (kind : Kind)
    (member : F kind) (other : Kind) : F other :=
  if h : kind = other then h ▸ member else family other

/-- The replaced member of a family. -/
@[simp]
theorem replaceAt_same {F : Kind → Type} (family : (kind : Kind) → F kind) (kind : Kind)
    (member : F kind)
    : replaceAt family kind member kind = member := by
  simp [replaceAt]

/-- The other members of a family stay. -/
theorem replaceAt_other {F : Kind → Type} (family : (kind : Kind) → F kind) {kind other : Kind}
    (member : F kind) (h : kind ≠ other)
    : replaceAt family kind member other = family other := by
  simp [replaceAt, h]

/-- A store without tables. -/
def absent : Tables where
  live _ := none
  archive _ := none
  log := none
  ledger := none

/-- Puts rows in the live table of a kind. -/
def setLive (t : Tables) (kind : Kind) (rows : Table (LiveRow kind)) : Tables :=
  { t with live := replaceAt t.live kind (some rows) }

/-- Puts rows in the archive table of a kind. -/
def setArchive (t : Tables) (kind : Kind) (rows : Table (ArchivedRow kind)) : Tables :=
  { t with archive := replaceAt t.archive kind (some rows) }

/-- Puts rows in the log. -/
def setLog (t : Tables) (rows : Table LogRow) : Tables :=
  { t with log := some rows }

/-- Puts rows in the ledger. -/
def setLedger (t : Tables) (rows : Table LedgerRow) : Tables :=
  { t with ledger := some rows }

/-- Removes a table with all its rows. -/
def drop (t : Tables) : TableId → Tables
  | .live kind => { t with live := replaceAt t.live kind none }
  | .archive kind => { t with archive := replaceAt t.archive kind none }
  | .log => { t with log := none }
  | .ledger => { t with ledger := none }

/-- The keys of a table, if there is one. -/
def keys? (t : Tables) : TableId → Option (List Int)
  | .live kind => (t.live kind).map Table.keys
  | .archive kind => (t.archive kind).map Table.keys
  | .log => t.log.map Table.keys
  | .ledger => t.ledger.map Table.keys

/-- Makes every missing table an empty one. -/
def complete (t : Tables) : Tables where
  live kind := some ((t.live kind).getD Table.empty)
  archive kind := some ((t.archive kind).getD Table.empty)
  log := some (t.log.getD Table.empty)
  ledger := some (t.ledger.getD Table.empty)

section Frame

variable (t : Tables) (kind : Kind)

/-- The live table of a kind after rows were put in it. -/
@[simp]
theorem setLive_live_same (rows : Table (LiveRow kind))
    : (t.setLive kind rows).live kind = some rows :=
  replaceAt_same ..

/-- The live tables of other kinds stay as they were. -/
theorem setLive_live_other {other : Kind} (rows : Table (LiveRow kind)) (h : kind ≠ other)
    : (t.setLive kind rows).live other = t.live other :=
  replaceAt_other _ _ h

/-- The archive table of a kind after rows were put in it. -/
@[simp]
theorem setArchive_archive_same (rows : Table (ArchivedRow kind))
    : (t.setArchive kind rows).archive kind = some rows :=
  replaceAt_same ..

/-- The archive tables of other kinds stay as they were. -/
theorem setArchive_archive_other {other : Kind} (rows : Table (ArchivedRow kind))
    (h : kind ≠ other)
    : (t.setArchive kind rows).archive other = t.archive other :=
  replaceAt_other _ _ h

/-- A change to a live table leaves the archive tables alone. -/
@[simp]
theorem setLive_archive (rows : Table (LiveRow kind)) : (t.setLive kind rows).archive = t.archive :=
  rfl

/-- A change to a live table leaves the log alone. -/
@[simp]
theorem setLive_log (rows : Table (LiveRow kind)) : (t.setLive kind rows).log = t.log :=
  rfl

/-- A change to a live table leaves the ledger alone. -/
@[simp]
theorem setLive_ledger (rows : Table (LiveRow kind)) : (t.setLive kind rows).ledger = t.ledger :=
  rfl

/-- A change to an archive table leaves the live tables alone. -/
@[simp]
theorem setArchive_live (rows : Table (ArchivedRow kind))
    : (t.setArchive kind rows).live = t.live :=
  rfl

/-- A change to an archive table leaves the log alone. -/
@[simp]
theorem setArchive_log (rows : Table (ArchivedRow kind)) : (t.setArchive kind rows).log = t.log :=
  rfl

/-- A change to an archive table leaves the ledger alone. -/
@[simp]
theorem setArchive_ledger (rows : Table (ArchivedRow kind))
    : (t.setArchive kind rows).ledger = t.ledger :=
  rfl

/-- The log after rows were put in it. -/
@[simp]
theorem setLog_log (rows : Table LogRow) : (t.setLog rows).log = some rows :=
  rfl

/-- A change to the log leaves the live tables alone. -/
@[simp]
theorem setLog_live (rows : Table LogRow) : (t.setLog rows).live = t.live :=
  rfl

/-- A change to the log leaves the archive tables alone. -/
@[simp]
theorem setLog_archive (rows : Table LogRow) : (t.setLog rows).archive = t.archive :=
  rfl

/-- A change to the log leaves the ledger alone. -/
@[simp]
theorem setLog_ledger (rows : Table LogRow) : (t.setLog rows).ledger = t.ledger :=
  rfl

end Frame

end Tables

end AdoptionRecords
