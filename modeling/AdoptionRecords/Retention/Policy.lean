import AdoptionRecords.Store.Work

/-! The retention policy: how many days completed requests, adopted pets and log entries are kept.
A record is past its retention when its date lies strictly before a cutoff. A cutoff that the
calendar does not reach is none, and then no date is past it.
-/

namespace AdoptionRecords.Retention

open Calendar Work

/-- How many days records are kept. -/
structure Policy where
  requestDays : Int
  adoptedPetDays : Int
  logKeepDays : Int
  deriving DecidableEq, Repr

namespace Policy

/-- Requests are kept for 30 days, adopted pets for 60 and log entries for a year. -/
def standard : Policy where
  requestDays := 30
  adoptedPetDays := 60
  logKeepDays := 365

/-- Why a completed request is archived. -/
def requestReason (p : Policy) : String :=
  s!"Auto-archived: Completed request older than {p.requestDays} days"

/-- Why an adopted pet is archived. -/
def petReason (p : Policy) : String :=
  s!"Auto-archived: Pet adopted over {p.adoptedPetDays} days ago"

/-- Requests approved before this date are past their retention. -/
def requestCutoff (p : Policy) (today : Date) : Option Date :=
  today.daysBefore? p.requestDays

/-- Pets adopted before this date are past their retention. -/
def adoptedPetCutoff (p : Policy) (today : Date) : Option Date :=
  today.daysBefore? p.adoptedPetDays

/-- Log entries written before this instant are past their retention. -/
def logCutoff (p : Policy) (now : Instant) : Option Instant :=
  now.daysBefore? p.logKeepDays

end Policy

/-- What a retention run did. -/
structure Report where
  requestsArchived : Nat
  petsArchived : Nat
  logEntriesPruned : Nat
  deriving DecidableEq, Repr

namespace Report

/-- The report of a run that did nothing. -/
def zero : Report :=
  ⟨0, 0, 0⟩

/-- The number of records that a run archived. -/
def recordsArchived (r : Report) : Nat :=
  r.requestsArchived + r.petsArchived

end Report

/-- The statuses of requests that are completed. -/
def completedStatuses : List String :=
  ["Approved", "Rejected"]

/-- The status of pets that are adopted. -/
def adoptedStatus : String :=
  "Adopted"

/-- Whether a date lies before a cutoff, if there is one. -/
def isBefore (date : Date) : Option Date → Bool
  | some cutoff => date < cutoff
  | none => false

/-- Whether a request is completed and past its retention. One without an approval date is. -/
def requestIsDue (cutoff : Option Date) (c : AdoptionRequestContent) : Bool :=
  c.status.any completedStatuses.contains &&
    match c.approved with
    | none => true
    | some date => isBefore date cutoff

/-- Whether a pet is adopted and has an adoption that is past its retention. -/
def petIsDue (cutoff : Option Date) (adoptions : Table (LiveRow .adoption)) (pet : Int)
    (c : PetContent) : Bool :=
  c.adoptionStatus == some adoptedStatus &&
    0 < adoptions.count fun _ row =>
      row.content.pet == some pet && row.content.adopted.any (isBefore · cutoff)

/-- The live requests that are due, in the order of their keys. -/
def dueRequests (p : Policy) (today : Date) : Work (List Int) := do
  let requests ← liveTable .adoptionRequest
  let cutoff := p.requestCutoff today
  checkDates cutoff.toList
  return (requests.filter fun _ row => requestIsDue cutoff row.content).keys

/-- The live pets that are due, in the order of their keys. -/
def duePets (p : Policy) (today : Date) : Work (List Int) := do
  let pets ← liveTable .pet
  let adoptions ← liveTable .adoption
  let cutoff := p.adoptedPetCutoff today
  checkDates cutoff.toList
  return (pets.filter fun pet row => petIsDue cutoff adoptions pet row.content).keys

end AdoptionRecords.Retention
