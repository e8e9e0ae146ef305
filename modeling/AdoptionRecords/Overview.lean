import AdoptionRecords.Database
import AdoptionRecords.Listing

/-! Overviews of the archive: how many records each kind has there, from when to when they were
archived, and whether they refer to records that are nowhere. A table that cannot be read leaves
the rest of an overview as it is.
-/

namespace AdoptionRecords

open Calendar Work

/-- The number of archived records of each kind; a kind may have been left out. -/
structure Statistics where
  counts : Kind → Option Int

namespace Statistics

/-- The number of archived records of a kind, none if it was left out. -/
def get (s : Statistics) (kind : Kind) : Int :=
  (s.counts kind).getD 0

/-- The number of archived records of all kinds. -/
def total (s : Statistics) : Int :=
  (Kind.declared.map s.get).foldr (· + ·) 0

end Statistics

/-- How many records of a kind are archived, and when the first and the last of them were. -/
structure Summary where
  kind : Kind
  count : Int
  oldest : Option Instant
  newest : Option Instant
  deriving DecidableEq, Repr

namespace Summary

/-- The summary of a kind without archived records. -/
def empty (kind : Kind) : Summary where
  kind
  count := 0
  oldest := none
  newest := none

/-- The earlier of two instants. -/
def earlier (a b : Instant) : Instant :=
  if b < a then b else a

/-- The later of two instants. -/
def later (a b : Instant) : Instant :=
  if a < b then b else a

/-- Picks one instant out of many; there is none to pick from none. -/
def pick (choose : Instant → Instant → Instant) : List Instant → Option Instant
  | [] => none
  | first :: rest => some (rest.foldl choose first)

/-- The summary of an archive table. -/
def ofRows {kind : Kind} (rows : Table (ArchivedRow kind)) : Summary :=
  let dates := rows.entries.filterMap fun (_, row) => row.archivedAt
  { kind
    count := rows.size
    oldest := pick earlier dates
    newest := pick later dates }

end Summary

/-- The kinds that records of a kind refer to. -/
def Kind.targets : Kind → List Kind
  | .pet => [petOwner]
  | .adoptionRequest | .adoption => [pet, adopter]
  | .user | .adopter | .petOwner => []

/-- The records that a record refers to, by kind and key; a key may be missing. -/
def Content.references : (kind : Kind) → Content kind → List (Kind × Option Int)
  | .pet, c => [(.petOwner, PetContent.owner c)]
  | .adoptionRequest, c =>
      [(.pet, AdoptionRequestContent.pet c), (.adopter, AdoptionRequestContent.adopter c)]
  | .adoption, c => [(.pet, AdoptionContent.pet c), (.adopter, AdoptionContent.adopter c)]
  | .user, _ | .adopter, _ | .petOwner, _ => []

/-- Whether a key is live or archived. -/
def Tables.holds (t : Tables) (kind : Kind) (key : Int) : Bool :=
  (t.live kind).any (·.contains key) || (t.archive kind).any (·.contains key)

/-- Whether a record refers to one that is neither live nor archived. -/
def Tables.dangles (t : Tables) (kind : Kind) (content : Content kind) : Bool :=
  (Content.references kind content).any fun (target, key) => !key.any (t.holds target)

namespace Overview

/-- The number of archived records of a kind. -/
def countArchived (kind : Kind) : Work Nat := do
  return (← archiveTable kind).size

/-- The number of archived records of every kind; a table that cannot be read counts as empty. -/
def statistics (d : Database) : Statistics where
  counts kind :=
    match d.ask (countArchived kind) with
    | .ok count => some count
    | .error _ => some 0

/-- The summary of a kind. -/
def summarize (kind : Kind) : Work Summary := do
  return .ofRows (← archiveTable kind)

/-- The summaries of every kind; a table that cannot be read counts as empty. -/
def summary (d : Database) : List Summary :=
  Kind.summaryOrder.map fun kind =>
    match d.ask (summarize kind) with
    | .ok row => row
    | .error _ => .empty kind

/-- The number of archived records of a kind that refer to a record that is nowhere. -/
def countDangling (kind : Kind) : Work Nat := do
  let archived ← archiveTable kind
  -- Every table that the check names must exist, whether or not any row refers to it.
  kind.targets.forM fun target => do
    let _ ← liveTable target
    let _ ← archiveTable target
  let tables := (← get).tables
  return archived.count fun _ row => tables.dangles kind row.content

/-- The kinds whose archived records are checked for references, in the order of the checks. -/
def checked : List Kind :=
  [.pet, .adoptionRequest, .adoption]

/-- What is wrong with a number of archived records of a kind. -/
def issue (kind : Kind) (count : Nat) : String :=
  let found := s!"Found {count} archived {kind.label.toLower}"
  match kind with
  | .pet => found ++ " without corresponding owners"
  | _ => found ++ " with missing references"

/-- That the archived records of a kind could not be checked. -/
def failure (kind : Kind) (fault : Fault) : String :=
  let subject :=
    match kind with
    | .adoptionRequest => "adoption request"
    | _ => kind.name
  s!"Error checking {subject} archive integrity: {fault.detail}"

/-- The issue that a check tells of, if there is one. -/
def issue? (kind : Kind) : Except Fault Nat → Option String
  | .ok 0 => none
  | .ok count => some (issue kind count)
  | .error fault => some (failure kind fault)

/-- The issues that the checks of references tell of. -/
def integrity (d : Database) : List String :=
  checked.filterMap fun kind => issue? kind (d.ask (countDangling kind))

/-- The archived records of a kind; none if they cannot be read. -/
def listArchived (d : Database) (kind : Kind) (limit : Int) : List ArchivedRecord :=
  match d.ask (Listing.archived kind limit) with
  | .ok records => records
  | .error _ => []

/-- The latest log entries; none if they cannot be read. -/
def recent (d : Database) (limit : Int) (kind : Option Kind) : List LogEntry :=
  match d.ask (Log.recent limit kind) with
  | .ok entries => entries
  | .error _ => []

end Overview

end AdoptionRecords
