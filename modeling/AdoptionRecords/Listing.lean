import AdoptionRecords.Store.Work

/-! Looking records up. Archived records are listed latest first; those whose archiving has no
date come last, and among equal dates greater keys come first.
-/

namespace AdoptionRecords

open Calendar Work

/-- An archived record as listings of any kind show it. -/
structure ArchivedRecord where
  kind : Kind
  key : Int
  label : Option String
  archivedAt : Option Instant
  archivedBy : Option Int
  reason : Option String
  deriving DecidableEq, Repr

namespace Listing

/-- Whether a key is in the live table of a kind. -/
def isLive (kind : Kind) (key : Int) : Work Bool := do
  return (← liveTable kind).contains key

/-- Whether a key is in the archive table of a kind. -/
def isArchived (kind : Kind) (key : Int) : Work Bool := do
  return (← archiveTable kind).contains key

/-- Yields a live row, in what is shown of which nothing may be missing that must be there. -/
def checkedLive {kind : Kind} (row : LiveRow kind) : Work (LiveRow kind) := do
  checkAnswer (Shown.columns kind) (Shown.cells kind row.shown)
  return row

/-- Yields an archived row, in which nothing may be missing that must be there. -/
def checkedArchived {kind : Kind} (row : ArchivedRow kind) : Work (ArchivedRow kind) := do
  checkAnswer (Shown.columns kind) (Shown.cells kind row.shown)
  checkAnswer Metadata.columns row.toMetadata.cells
  return row

/-- The live row under a key. -/
def findLive (kind : Kind) (key : Int) : Work (Option (LiveRow kind)) := do
  match (← liveTable kind).find? key with
  | some row => return some (← checkedLive row)
  | none => return none

/-- The archived row under a key. -/
def findArchived (kind : Kind) (key : Int) : Work (Option (ArchivedRow kind)) := do
  match (← archiveTable kind).find? key with
  | some row => return some (← checkedArchived row)
  | none => return none

/-- Whether one row of an archive table is listed before another. -/
def latestFirst {kind : Kind} (a b : Int × ArchivedRow kind) : Bool :=
  match a.2.archivedAt, b.2.archivedAt with
  | some x, some y => y < x || (x == y && b.1 ≤ a.1)
  | some _, none => true
  | none, some _ => false
  | none, none => b.1 ≤ a.1

/-- All archived rows of a kind, latest first. -/
def ordered {kind : Kind} (rows : Table (ArchivedRow kind)) : List (Int × ArchivedRow kind) :=
  rows.entries.mergeSort latestFirst

/-- Yields archived rows, in which nothing may be missing that must be there. -/
def checkedRows {kind : Kind} (rows : List (Int × ArchivedRow kind))
    : Work (List (Int × ArchivedRow kind)) :=
  rows.mapM fun (key, row) => do return (key, ← checkedArchived row)

/-- The archived rows of a kind, latest first and at most the given number. -/
def archivedRows (kind : Kind) (limit : Int) : Work (List (Int × ArchivedRow kind)) := do
  checkedRows ((ordered (← archiveTable kind)).take limit.toNat)

/-- The archived pets of an owner, or of all owners, latest first. -/
def archivedPets (owner : Option Int) : Work (List (Int × ArchivedRow .pet)) := do
  let pets ← archiveTable .pet
  match owner with
  | some owner =>
      checkedRows (ordered (pets.filter fun _ row => row.content.owner == some owner))
  | none => checkedRows (ordered pets)

/-- How a listing shows an archived row. -/
def record (kind : Kind) (key : Int) (row : ArchivedRow kind) : ArchivedRecord where
  kind
  key
  label := Content.label kind row.content
  archivedAt := row.archivedAt
  archivedBy := row.archivedBy
  reason := row.reason

/-- The archived records of a kind, latest first and at most the given number. -/
def archived (kind : Kind) (limit : Int) : Work (List ArchivedRecord) := do
  let rows := (ordered (← archiveTable kind)).take limit.toNat
  return rows.map fun (key, row) => record kind key row

/-- How many records a listing shows when nobody says. -/
def standardLimit : Int :=
  100

end Listing

end AdoptionRecords
