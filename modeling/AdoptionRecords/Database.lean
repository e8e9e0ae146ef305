import AdoptionRecords.Transaction
import AdoptionRecords.UserUpdate
import AdoptionRecords.Event

/-! A database: a store with a clock, a retention policy and what was announced. Each call is one
unit of work on the store, and tells what became of it. A database whose store cannot be reached
refuses every call and stays as it is.
-/

namespace AdoptionRecords

open Calendar

/-- A store, and what its calls depend on; the envelopes emitted stand oldest first. -/
structure Database where
  store : Store
  clock : Instant
  reachable : Bool
  policy : Retention.Policy
  emitted : List Envelope

/-- Calls on a database, one after another. -/
abbrev Session := StateM Database

namespace Schema

/-- The version of the schema. -/
def version : Int :=
  20261001000000

/-- The row by which the ledger tells that the schema was applied. -/
def ledgerRow (now : Instant) : LedgerRow where
  description := some "archive schema"
  installed := some now
  success := some true
  hasChecksum := true

/-- Creates the missing tables, unless the ledger tells that this was done before. Nothing is done
if it tells of a change that failed, or of one without a checksum.
-/
def apply (now : Instant) : Work Unit := do
  let s ← get
  let ledger := s.tables.ledger.getD Table.empty
  if let some (failed, _) := ledger.entries.find? fun (_, row) => row.success = some false then
    throw (.halfApplied failed)
  if ledger.entries.any fun (_, row) => !row.hasChecksum then
    Work.refuse (.missingValue (.place 1))
  -- What the ledger tells counts, not which tables there are.
  if ledger.contains version then
    return ()
  let tables := s.tables.complete
  set { s with tables := { tables with ledger := some (ledger.insert version (ledgerRow now)) } }

end Schema

namespace Database

/-- A database over a fresh store with its schema applied. -/
def fresh (clock : Instant) : Database where
  store := (Store.unmigrated.perform (Schema.apply clock.stored)).2
  clock := clock
  reachable := true
  policy := .standard
  emitted := []

/-- The instant that the store takes for now. -/
def now (d : Database) : Instant :=
  d.clock.stored

/-- Looks at the store without changing it. -/
def ask {α : Type} (d : Database) (work : Work α) : Except Fault α :=
  if d.reachable then d.store.ask work else .error (.database .unreachable)

/-- Performs a unit of work on the store. -/
def perform {α : Type} (work : Instant → Work α) : Session (Except Fault α) := do
  let d ← get
  if !d.reachable then
    return .error (.database .unreachable)
  let (result, store) := d.store.perform (work d.now)
  set { d with store }
  return result

/-- What a unit of work does to a database: it works on the store if that can be reached. -/
theorem run_perform {α : Type} (d : Database) (work : Instant → Work α)
    : (perform work).run d =
      if d.reachable then
        ((d.store.perform (work d.now)).1, { d with store := (d.store.perform (work d.now)).2 })
      else (.error (.database .unreachable), d) := by
  by_cases h : d.reachable <;> simp [perform, h] <;> rfl

/-- Announces an event. -/
def announce (event : Event) : Session Unit :=
  modify fun d => { d with emitted := d.emitted ++ [.enclose d.clock event] }

/-- Carries out a transition and announces its outcome. -/
def transition (t : Transition) : Session Outcome := do
  let outcome := Outcome.ofResult (← perform t.carryOut)
  announce (.ofOutcome t outcome)
  return outcome

/-- What a transition does to a database: its unit of work, then one more envelope. -/
theorem run_transition (d : Database) (t : Transition)
    : (transition t).run d =
      let (result, after) := (perform t.carryOut).run d
      let outcome := Outcome.ofResult result
      (outcome,
        { after with
          emitted := after.emitted ++ [.enclose after.clock (.ofOutcome t outcome)] }) :=
  rfl

/-- Why a deleted user is archived. -/
def deletionReason : String :=
  "User deleted via admin dashboard"

/-- The transition by which a user is deleted: nobody's archiving of the user. -/
def deletion (user : Int) : Transition where
  operation := .archive
  kind := .user
  key := user
  actor := none
  reason := deletionReason

/-- Deletes a user by archiving the user's row. -/
def deleteUser (user : Int) : Session Outcome :=
  transition (deletion user)

/-- Updates a user, and announces that an old profile was flagged if the plan says so. -/
def updateUser (u : UserUpdate) : Session (Except Fault RoleChange) := do
  match ← perform u.carryOut with
  | .ok (oldName, role, plan) =>
      if let some profile := plan.flagOld then
        announce (.profileFlagged profile.kind oldName)
      return .ok (.ofPlan role u.role plan)
  | .error fault => return .error fault

/-- Sets the flag of a live pet. -/
def flagPet (pet : Int) : Session (Except Fault Bool) :=
  perform fun now => Flag.setPet pet now

/-- Clears the flag of a live pet. -/
def unflagPet (pet : Int) : Session (Except Fault Bool) :=
  perform fun _ => Flag.clearPet pet

/-- Makes calls in one transaction and ends it. -/
def transact (calls : List Call) (commit : Bool)
    : Session (Except Fault (List (Except Fault Call.Answer))) := do
  let d ← get
  if !d.reachable then
    return .error (.database .unreachable)
  let (answers, store) := d.store.transact d.now calls commit
  set { d with store }
  return .ok answers

/-- Applies the schema. -/
def migrate : Session (Except Fault Unit) := do
  match ← perform Schema.apply with
  | .error (.database cause) => return .error (.schema cause)
  | result => return result

/-- Removes the log entries before a cutoff. -/
def pruneLog (cutoff : Instant) : Session (Except Fault Nat) :=
  perform fun _ => Log.prune cutoff

/-- Removes the log entries that are more than a number of days old. Nothing is that old if the
calendar does not reach so far, and a fault counts as nothing removed.
-/
def cleanUpLog (days : Int) : Session Nat := do
  match (← get).clock.daysBefore? days with
  | none => return 0
  | some cutoff =>
      match ← pruneLog cutoff with
      | .ok removed => return removed
      | .error _ => return 0

end Database

end AdoptionRecords
