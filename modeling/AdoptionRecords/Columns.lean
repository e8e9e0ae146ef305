import AdoptionRecords.Cell
import AdoptionRecords.Record

/-! The columns of records: for each type that is stored or shown, its fields in order, its cells
in the same order, and how it is made of such cells.
-/

namespace AdoptionRecords

open Cell AdoptionRecords.Field

/-- The columns of a kind's records without their key. -/
def Kind.columns : Kind → Shape
  | .user =>
      [required "username" .text, nullable "email" .text, required "password" .text,
        required "role" .text, nullable "created_at" .instant]
  | .adopter =>
      [nullable "username" .text, required "adopter_name" .text, nullable "adopter_contact" .text,
        nullable "adopter_email" .text, nullable "adopter_address" .text,
        nullable "adopter_profile" .text, nullable "adopter_username" .text,
        nullable "adopter_password" .text]
  | .petOwner =>
      [required "pet_owner_name" .text, nullable "pet_owner_contact" .text,
        nullable "pet_owner_email" .text, nullable "pet_owner_address" .text,
        nullable "pet_owner_profile" .text, nullable "pet_owner_username" .text,
        nullable "pet_owner_password" .text, nullable "username" .text]
  | .pet =>
      [required "pet_owner_id" .key, required "pet_name" .text, nullable "pet_type_id" .key,
        nullable "description" .text, nullable "age" .key, nullable "gender" .text,
        nullable "health_status" .text, nullable "upload_health_history" .text,
        nullable "vaccination_status" .text, nullable "proof_of_vaccination" .text,
        required "adoption_status" .text, nullable "date_registered" .date]
  | .adoptionRequest =>
      [required "pet_id" .key, required "adopter_id" .key, required "status" .text,
        nullable "request_date" .date, nullable "approval_date" .date, nullable "remarks" .text]
  | .adoption =>
      [required "pet_id" .key, required "adopter_id" .key, required "adoption_date" .date,
        nullable "remarks" .text]

namespace Content

/-- The cells of a content. -/
def cells : (kind : Kind) → Content kind → List Cell
  | .user, (c : UserContent) =>
      [ofOption text c.username, ofOption text c.email, ofOption text c.password,
        ofOption text c.roleName, ofOption instant c.created]
  | .adopter, (c : AdopterContent) =>
      [ofOption text c.username, ofOption text c.name, ofOption text c.contact,
        ofOption text c.email, ofOption text c.address, ofOption text c.profile,
        ofOption text c.login, ofOption text c.password]
  | .petOwner, (c : PetOwnerContent) =>
      [ofOption text c.name, ofOption text c.contact, ofOption text c.email,
        ofOption text c.address, ofOption text c.profile, ofOption text c.login,
        ofOption text c.password, ofOption text c.username]
  | .pet, (c : PetContent) =>
      [ofOption int c.owner, ofOption text c.name, ofOption int c.petType,
        ofOption text c.description, ofOption int c.age, ofOption text c.gender,
        ofOption text c.healthStatus, ofOption text c.healthHistory,
        ofOption text c.vaccinationStatus, ofOption text c.vaccinationProof,
        ofOption text c.adoptionStatus, ofOption date c.registered]
  | .adoptionRequest, (c : AdoptionRequestContent) =>
      [ofOption int c.pet, ofOption int c.adopter, ofOption text c.status,
        ofOption date c.requested, ofOption date c.approved, ofOption text c.remarks]
  | .adoption, (c : AdoptionContent) =>
      [ofOption int c.pet, ofOption int c.adopter, ofOption date c.adopted,
        ofOption text c.remarks]

/-- The content that is made of given cells. -/
def ofCells? : (kind : Kind) → List Cell → Option (Content kind)
  | .user, [username, email, password, roleName, created] => do
      let content : UserContent :=
        { username := ← username.text?, email := ← email.text?, password := ← password.text?,
          roleName := ← roleName.text?, created := ← created.instant? }
      return content
  | .adopter, [username, name, contact, email, address, profile, login, password] => do
      let content : AdopterContent :=
        { username := ← username.text?, name := ← name.text?, contact := ← contact.text?,
          email := ← email.text?, address := ← address.text?, profile := ← profile.text?,
          login := ← login.text?, password := ← password.text? }
      return content
  | .petOwner, [name, contact, email, address, profile, login, password, username] => do
      let content : PetOwnerContent :=
        { name := ← name.text?, contact := ← contact.text?, email := ← email.text?,
          address := ← address.text?, profile := ← profile.text?, login := ← login.text?,
          password := ← password.text?, username := ← username.text? }
      return content
  | .pet, [owner, name, petType, description, age, gender, healthStatus, healthHistory,
      vaccinationStatus, vaccinationProof, adoptionStatus, registered] => do
      let content : PetContent :=
        { owner := ← owner.int?, name := ← name.text?, petType := ← petType.int?,
          description := ← description.text?, age := ← age.int?, gender := ← gender.text?,
          healthStatus := ← healthStatus.text?, healthHistory := ← healthHistory.text?,
          vaccinationStatus := ← vaccinationStatus.text?,
          vaccinationProof := ← vaccinationProof.text?,
          adoptionStatus := ← adoptionStatus.text?, registered := ← registered.date? }
      return content
  | .adoptionRequest, [pet, adopter, status, requested, approved, remarks] => do
      let content : AdoptionRequestContent :=
        { pet := ← pet.int?, adopter := ← adopter.int?, status := ← status.text?,
          requested := ← requested.date?, approved := ← approved.date?,
          remarks := ← remarks.text? }
      return content
  | .adoption, [pet, adopter, adopted, remarks] => do
      let content : AdoptionContent :=
        { pet := ← pet.int?, adopter := ← adopter.int?, adopted := ← adopted.date?,
          remarks := ← remarks.text? }
      return content
  | _, _ => none

/-- A content is made of its own cells. -/
theorem ofCells?_cells (kind : Kind) (content : Content kind)
    : ofCells? kind (cells kind content) = some content := by
  cases kind <;> simp [cells, ofCells?]

end Content

namespace LiveRow

/-- The columns by which a live row is flagged. -/
def flagColumns : Shape :=
  [required "archived" .bool, nullable "archived_date" .instant]

/-- The columns of a live table without the key. -/
def columns (kind : Kind) : Shape :=
  kind.columns ++ flagColumns

/-- The cells of the flag of a live row. -/
def flagCells {kind : Kind} (row : LiveRow kind) : List Cell :=
  [ofOption bool row.archived, ofOption instant row.archivedAt]

/-- The cells of a live row. -/
def cells {kind : Kind} (row : LiveRow kind) : List Cell :=
  Content.cells kind row.content ++ row.flagCells

/-- The live row that is made of given cells. -/
def ofCells? (kind : Kind) (cells : List Cell) : Option (LiveRow kind) := do
  let size := kind.columns.length
  match cells.drop size with
  | [archived, archivedAt] =>
      return { content := ← Content.ofCells? kind (cells.take size), archived := ← archived.bool?,
               archivedAt := ← archivedAt.instant? }
  | _ => none

end LiveRow

namespace Metadata

/-- The columns that tell how a record was archived. -/
def columns : Shape :=
  [required "archived" .bool, nullable "archived_date" .instant,
    nullable "archived_by_user_id" .key, nullable "archive_reason" .text]

/-- The cells that tell how a record was archived. -/
def cells (m : Metadata) : List Cell :=
  [ofOption bool m.archived, ofOption instant m.archivedAt, ofOption int m.archivedBy,
    ofOption text m.reason]

/-- How a record was archived, made of given cells. -/
def ofCells? : List Cell → Option Metadata
  | [archived, archivedAt, archivedBy, reason] => do
      return { archived := ← archived.bool?, archivedAt := ← archivedAt.instant?,
               archivedBy := ← archivedBy.int?, reason := ← reason.text? }
  | _ => none

end Metadata

namespace ArchivedRow

/-- The columns of an archive table without the key. -/
def columns (kind : Kind) : Shape :=
  kind.columns ++ Metadata.columns

/-- The cells of an archived row. -/
def cells {kind : Kind} (row : ArchivedRow kind) : List Cell :=
  Content.cells kind row.content ++ row.toMetadata.cells

/-- The archived row that is made of given cells. -/
def ofCells? (kind : Kind) (cells : List Cell) : Option (ArchivedRow kind) := do
  let size := kind.columns.length
  let metadata ← Metadata.ofCells? (cells.drop size)
  return { metadata with content := ← Content.ofCells? kind (cells.take size) }

end ArchivedRow

namespace Shown

/-- The fields in which a record of a kind is shown after its key. -/
def columns : Kind → Shape
  | .pet => LiveRow.columns .pet
  | kind => kind.columns

/-- The cells of what is shown of a record. -/
def cells : (kind : Kind) → Shown kind → List Cell
  | .pet, row => LiveRow.cells row
  | .user, c => Content.cells .user c
  | .adopter, c => Content.cells .adopter c
  | .petOwner, c => Content.cells .petOwner c
  | .adoptionRequest, c => Content.cells .adoptionRequest c
  | .adoption, c => Content.cells .adoption c

/-- What is shown of a record, made of given cells. -/
def ofCells? : (kind : Kind) → List Cell → Option (Shown kind)
  | .pet, cells => LiveRow.ofCells? .pet cells
  | .user, cells => Content.ofCells? .user cells
  | .adopter, cells => Content.ofCells? .adopter cells
  | .petOwner, cells => Content.ofCells? .petOwner cells
  | .adoptionRequest, cells => Content.ofCells? .adoptionRequest cells
  | .adoption, cells => Content.ofCells? .adoption cells

end Shown

namespace LogRow

/-- The columns of the log without the number. -/
def columns : Shape :=
  [required "table_name" .text, required "record_id" .key, required "operation" .text,
    nullable "performed_by_user_id" .key, required "operation_date" .instant,
    nullable "reason" .text]

/-- The cells of a row of the log. -/
def cells (row : LogRow) : List Cell :=
  [ofOption text row.table, ofOption int row.record, ofOption text row.operationName,
    ofOption int row.performedBy, ofOption instant row.performedAt, ofOption text row.reason]

/-- The row of the log that is made of given cells. -/
def ofCells? : List Cell → Option LogRow
  | [table, record, operationName, performedBy, performedAt, reason] => do
      return { table := ← table.text?, record := ← record.int?,
               operationName := ← operationName.text?, performedBy := ← performedBy.int?,
               performedAt := ← performedAt.instant?, reason := ← reason.text? }
  | _ => none

end LogRow

end AdoptionRecords
