import AdoptionRecords.Role
import AdoptionRecords.Operation
import AdoptionRecords.Calendar.Instant

/-! What the records of each kind hold. The content of a record is the part that survives a move
between its live table and its archive table; the key stands beside it. The store may have been
given rows that its rules forbid, so that any value of a record may be missing; which of them must
be there is told by the columns of its kind.
-/

namespace AdoptionRecords

open Calendar

/-- What is known of a user. The store may hold any text as the name of a role. -/
structure UserContent where
  username : Option String
  email : Option String
  password : Option String
  roleName : Option String
  created : Option Instant
  deriving DecidableEq, Repr

/-- What is known of an adopter. The username links the profile to a user. -/
structure AdopterContent where
  username : Option String
  name : Option String
  contact : Option String
  email : Option String
  address : Option String
  profile : Option String
  login : Option String
  password : Option String
  deriving DecidableEq, Repr

/-- What is known of a pet owner. The username links the profile to a user. -/
structure PetOwnerContent where
  name : Option String
  contact : Option String
  email : Option String
  address : Option String
  profile : Option String
  login : Option String
  password : Option String
  username : Option String
  deriving DecidableEq, Repr

/-- What is known of a pet. -/
structure PetContent where
  owner : Option Int
  name : Option String
  petType : Option Int
  description : Option String
  age : Option Int
  gender : Option String
  healthStatus : Option String
  healthHistory : Option String
  vaccinationStatus : Option String
  vaccinationProof : Option String
  adoptionStatus : Option String
  registered : Option Date
  deriving DecidableEq, Repr

/-- What is known of a request to adopt a pet. -/
structure AdoptionRequestContent where
  pet : Option Int
  adopter : Option Int
  status : Option String
  requested : Option Date
  approved : Option Date
  remarks : Option String
  deriving DecidableEq, Repr

/-- What is known of a completed adoption. -/
structure AdoptionContent where
  pet : Option Int
  adopter : Option Int
  adopted : Option Date
  remarks : Option String
  deriving DecidableEq, Repr

/-- The content of the records of a kind. -/
@[reducible]
def Content : Kind → Type
  | .user => UserContent
  | .adopter => AdopterContent
  | .petOwner => PetOwnerContent
  | .pet => PetContent
  | .adoptionRequest => AdoptionRequestContent
  | .adoption => AdoptionContent

instance : (k : Kind) → DecidableEq (Content k)
  | .user => inferInstanceAs (DecidableEq UserContent)
  | .adopter => inferInstanceAs (DecidableEq AdopterContent)
  | .petOwner => inferInstanceAs (DecidableEq PetOwnerContent)
  | .pet => inferInstanceAs (DecidableEq PetContent)
  | .adoptionRequest => inferInstanceAs (DecidableEq AdoptionRequestContent)
  | .adoption => inferInstanceAs (DecidableEq AdoptionContent)

/-- A row of a live table: a content and the flag that hides the row in place. -/
structure LiveRow (k : Kind) where
  content : Content k
  archived : Option Bool
  archivedAt : Option Instant
  deriving DecidableEq

/-- A live row as it is created and as it comes back from the archive: not flagged. -/
def LiveRow.fresh {k : Kind} (content : Content k) : LiveRow k where
  content := content
  archived := some false
  archivedAt := none

/-- When, by whom and why a record was archived. -/
structure Metadata where
  archived : Option Bool
  archivedAt : Option Instant
  archivedBy : Option Int
  reason : Option String
  deriving DecidableEq, Repr

/-- A row of an archive table: a content, and how it was archived. -/
structure ArchivedRow (k : Kind) extends Metadata where
  content : Content k
  deriving DecidableEq

/-- What is shown of a record beside its key. A pet is shown with its flag. -/
@[reducible]
def Shown : Kind → Type
  | .pet => LiveRow .pet
  | k => Content k

/-- What is shown of a live row. -/
def LiveRow.shown : {k : Kind} → LiveRow k → Shown k
  | .pet, row => row
  | .user, row | .adopter, row | .petOwner, row | .adoptionRequest, row | .adoption, row =>
      row.content

/-- What is shown of an archived row beside how it was archived. -/
def ArchivedRow.shown : {k : Kind} → ArchivedRow k → Shown k
  | .pet, row => { content := row.content, archived := row.archived, archivedAt := row.archivedAt }
  | .user, row | .adopter, row | .petOwner, row | .adoptionRequest, row | .adoption, row =>
      row.content

/-- A row of the log. The store may hold any text as the name of an operation. -/
structure LogRow where
  table : Option String
  record : Option Int
  operationName : Option String
  performedBy : Option Int
  performedAt : Option Instant
  reason : Option String
  deriving DecidableEq, Repr

/-- An entry of the log, its operation being one of the three. -/
structure LogEntry where
  number : Int
  table : String
  record : Int
  operation : Operation
  performedBy : Option Int
  performedAt : Instant
  reason : Option String
  deriving DecidableEq, Repr

/-- The kind of record that a log entry is about, if its table is known. -/
def LogEntry.kind? (e : LogEntry) : Option Kind :=
  Kind.ofTable? e.table

namespace Content

/-- The texts of a record. -/
def texts : (k : Kind) → Content k → List String
  | .user, c => [c.username, c.email, c.password, c.roleName].filterMap id
  | .adopter, c =>
      [c.username, c.name, c.contact, c.email, c.address, c.profile, c.login,
        c.password].filterMap id
  | .petOwner, c =>
      [c.name, c.contact, c.email, c.address, c.profile, c.login, c.password,
        c.username].filterMap id
  | .pet, c =>
      [c.name, c.description, c.gender, c.healthStatus, c.healthHistory, c.vaccinationStatus,
        c.vaccinationProof, c.adoptionStatus].filterMap id
  | .adoptionRequest, c => [c.status, c.remarks].filterMap id
  | .adoption, c => c.remarks.toList

/-- The dates of a record. -/
def dates : (k : Kind) → Content k → List Date
  | .user, _ => []
  | .adopter, _ => []
  | .petOwner, _ => []
  | .pet, c => c.registered.toList
  | .adoptionRequest, c => [c.requested, c.approved].filterMap id
  | .adoption, c => c.adopted.toList

/-- The short label by which listings show a record; none if a part of it is missing. -/
def label : (k : Kind) → Content k → Option String
  | .user, c => c.username
  | .adopter, c => c.name
  | .petOwner, c => c.name
  | .pet, c => c.name
  | .adoptionRequest, c => do
      let pet ← c.pet
      let adopter ← c.adopter
      let status ← c.status
      return s!"pet {pet} / adopter {adopter} ({status})"
  | .adoption, c => do
      let pet ← c.pet
      let adopter ← c.adopter
      return s!"pet {pet} / adopter {adopter}"

end Content

/-- The username that links a profile's record to a user. -/
def Profile.username : (p : Profile) → Content p.kind → Option String
  | .adopter, c => AdopterContent.username c
  | .petOwner, c => PetOwnerContent.username c

end AdoptionRecords
