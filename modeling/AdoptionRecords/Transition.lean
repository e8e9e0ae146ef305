import AdoptionRecords.Log

/-! The three transitions of a record: archiving moves it from its live table to its archive
table, restoring moves it back, and permanent deletion removes it from the archive. A pet owner
with active pets is not archived and a pet comes back only under a live owner. Each completed
transition writes one log entry.
-/

namespace AdoptionRecords

open Calendar Work

/-- The number of an owner's pets that are live and not flagged. -/
def activePets (pets : Table (LiveRow .pet)) (owner : Int) : Nat :=
  pets.count fun _ row => row.content.owner == some owner && row.archived == some false

namespace Transition

/-- Refuses to let a pet owner go who has active pets. -/
def checkPets (owner : Int) : Work Unit := do
  -- The owners are looked up first, so their table must exist; the owner need not.
  let _ ← liveTable .petOwner
  let pets ← liveTable .pet
  if 0 < activePets pets owner then
    throw (.ownerHasPets owner (activePets pets owner))

/-- Refuses to let a pet come back whose owner is not live. -/
def checkOwner (pet : Int) : Work Unit := do
  let archived ← archiveTable .pet
  match archived.find? pet with
  | none => throw (.notArchived .pet pet)
  | some row =>
      match row.content.owner with
      | none => refuse (.missingValue (.place 0))
      | some owner =>
          let owners ← liveTable .petOwner
          if !owners.contains owner then
            throw (.ownerNotLive owner pet)

/-- Moves a live row to the archive table, with the circumstances of its archiving. -/
def moveToArchive (kind : Kind) (key : Int) (actor : Option Int) (reason : String)
    (now : Instant) : Work Unit := do
  let live ← liveTable kind
  let archived ← archiveTable kind
  -- A reason that cannot be stored is refused even when there is no row to move.
  checkTexts [reason]
  match live.find? key with
  | none => throw (.notLive kind key)
  | some row =>
      let row : ArchivedRow kind :=
        { content := row.content
          archived := some true
          archivedAt := some now
          archivedBy := actor
          reason := some reason }
      checkFilled (.archive kind) (ArchivedRow.columns kind) row.cells
      checkFree (.archive kind) archived key
      putLive kind (live.erase key)
      putArchive kind (archived.insert key row)

/-- Moves an archived row back to the live table, where it is not flagged. -/
def moveToLive (kind : Kind) (key : Int) : Work Unit := do
  let archived ← archiveTable kind
  let live ← liveTable kind
  match archived.find? key with
  | none => throw (.notArchived kind key)
  | some row =>
      let row := LiveRow.fresh row.content
      -- The rules of the live table are looked at before its keys.
      checkLive kind row
      checkFree (.live kind) live key
      putArchive kind (archived.erase key)
      putLive kind (live.insert key row)

/-- Removes an archived row for good. -/
def removeArchived (kind : Kind) (key : Int) : Work Unit := do
  let archived ← archiveTable kind
  if !archived.contains key then
    throw (.notArchived kind key)
  putArchive kind (archived.erase key)

/-- Moves or removes the record of a transition. -/
def move (t : Transition) (now : Instant) : Work Unit := do
  match t.operation with
  | .archive =>
      if t.kind = .petOwner then
        checkPets t.key
      moveToArchive t.kind t.key t.actor t.reason now
  | .restore =>
      if t.kind = .pet then
        checkOwner t.key
      moveToLive t.kind t.key
  | .permanentDelete => removeArchived t.kind t.key

/-- Carries out a transition and writes its log entry. -/
def carryOut (t : Transition) (now : Instant) : Work LogEntry := do
  t.move now
  Log.record t now

end Transition

/-- What became of a requested transition. -/
inductive Outcome
  | completed (entry : LogEntry)
  | notFound
  | blocked (reason : String)
  | failed (error : String)
  deriving DecidableEq, Repr

namespace Outcome

/-- The outcome of a call: business rules block it, and other faults make it fail. -/
def ofResult : Except Fault LogEntry → Outcome
  | .ok entry => completed entry
  | .error fault =>
      match fault.category with
      | .notFound => notFound
      | .precondition => blocked fault.detail
      | _ => failed fault.message

/-- Whether the transition was completed. -/
def isCompleted : Outcome → Bool
  | completed _ => true
  | _ => false

/-- The log entry of a completed transition. -/
def entry? : Outcome → Option LogEntry
  | completed entry => some entry
  | _ => none

/-- An outcome in words. -/
def describe : Outcome → String
  | completed entry =>
      s!"{entry.operation.name} {entry.table} #{entry.record} recorded as log entry {entry.number}"
  | notFound => "record not found"
  | blocked reason => "blocked: " ++ reason
  | failed error => "failed: " ++ error

end Outcome

end AdoptionRecords
