import AdoptionRecords.Database

/-! Retention runs. The records that are due are archived one at a time, each in a unit of work of
its own, so that one that fails leaves the others alone; then the log is pruned.
-/

namespace AdoptionRecords.Retention

open Calendar

/-- Archives records one after another and tells how many transitions were completed. -/
def archiveEach (kind : Kind) (actor : Option Int) (reason : String) : List Int → Session Nat
  | [] => return 0
  | key :: rest => do
      let outcome ← Database.transition { operation := .archive, kind, key, actor, reason }
      let archived ← archiveEach kind actor reason rest
      return (if outcome.isCompleted then 1 else 0) + archived

/-- Archives the records that are due; if they cannot be told, none. -/
def archiveDue (kind : Kind) (actor : Option Int) (reason : String)
    (due : Except Fault (List Int)) : Session Nat :=
  match due with
  | .ok keys => archiveEach kind actor reason keys
  | .error _ => return 0

/-- Archives the completed requests that are past their retention on a given date. -/
def archiveRequests (today : Date) (actor : Option Int) : Session Nat := do
  let d ← get
  archiveDue .adoptionRequest actor d.policy.requestReason
    (d.ask (dueRequests d.policy today))

/-- Archives the adopted pets that are past their retention on a given date. -/
def archivePets (today : Date) (actor : Option Int) : Session Nat := do
  let d ← get
  archiveDue .pet actor d.policy.petReason (d.ask (duePets d.policy today))

/-- Applies the whole policy at the present, announces the report and returns it. -/
def run (actor : Option Int) : Session Report := do
  let d ← get
  let requestsArchived ← archiveRequests d.clock.date actor
  let petsArchived ← archivePets d.clock.date actor
  let logEntriesPruned ← Database.cleanUpLog d.policy.logKeepDays
  let report := { requestsArchived, petsArchived, logEntriesPruned }
  Database.announce (.retentionCompleted report)
  return report

end AdoptionRecords.Retention
