import AdoptionRecords.Columns

/-! The wording of the statements by which a relational store does what the library asks of it,
for the tables and columns of each kind. The store of the library is a value and reads none of them.
-/

namespace AdoptionRecords.Statement

open Text

/-- The names of a kind's columns without its key. -/
def columnNames (k : Kind) : List String :=
  k.columns.map Field.name

/-- The names of a kind's columns, its key first. -/
def columnList (k : Kind) : String :=
  joinWith ", " (k.keyColumn :: columnNames k)

/-- The expression for the short label of a record. -/
def label : Kind → String
  | .user => "username"
  | .adopter => "adopter_name"
  | .petOwner => "pet_owner_name"
  | .pet => "pet_name"
  | .adoptionRequest =>
      "'pet ' || pet_id || ' / adopter ' || adopter_id || ' (' || status || ')'"
  | .adoption => "'pet ' || pet_id || ' / adopter ' || adopter_id"

/-- What archiving fills are the columns of the archive table, in their order. -/
theorem columnList_archive (k : Kind)
    : columnList k ++ ", archived, archived_date, archived_by_user_id, archive_reason"
      = joinWith ", " (k.keyColumn :: (ArchivedRow.columns k).map Field.name) := by
  cases k <;> decide +kernel

/-- What restoring fills are the columns of the live table, in their order. -/
theorem columnList_live (k : Kind)
    : columnList k ++ ", archived, archived_date"
      = joinWith ", " (k.keyColumn :: (LiveRow.columns k).map Field.name) := by
  cases k <;> decide +kernel

/-- Takes one row with all its columns out of a table. -/
def taking (k : Kind) (table : String) : String :=
  s!"WITH moved AS (DELETE FROM {table} WHERE {k.keyColumn} = $1 RETURNING {columnList k}) "

/-- Moves a live row to the archive. -/
def archiveMove (k : Kind) : String :=
  taking k k.liveTable ++
    s!"INSERT INTO {k.archiveTable} ({columnList k}, archived, archived_date, " ++
    s!"archived_by_user_id, archive_reason) SELECT {columnList k}, TRUE, NOW(), $2::INT, " ++
    "$3::TEXT FROM moved"

/-- Moves an archived row back. -/
def restoreMove (k : Kind) : String :=
  taking k k.archiveTable ++
    s!"INSERT INTO {k.liveTable} ({columnList k}, archived, archived_date) " ++
    s!"SELECT {columnList k}, FALSE, NULL FROM moved"

/-- Removes an archived row. -/
def purge (k : Kind) : String :=
  s!"DELETE FROM {k.archiveTable} WHERE {k.keyColumn} = $1"

/-- Tells whether a table has a key. -/
def existence (k : Kind) (table : String) : String :=
  s!"SELECT EXISTS(SELECT 1 FROM {table} WHERE {k.keyColumn} = $1)"

/-- Orders archived rows latest first and limits their number. -/
def latestFirst (k : Kind) : String :=
  s!"FROM {k.archiveTable} ORDER BY archived_date DESC NULLS LAST, {k.keyColumn} DESC LIMIT $1"

/-- Lists archived rows with their labels. -/
def listArchived (k : Kind) : String :=
  s!"SELECT {k.keyColumn} AS record_id, ({label k})::TEXT AS label, archived_date, " ++
    "archived_by_user_id, archive_reason " ++ latestFirst k

/-- Lists archived rows with all their columns. -/
def selectArchived (k : Kind) : String :=
  "SELECT * " ++ latestFirst k

/-- Selects the row under a key. -/
def selectByKey (k : Kind) (table : String) : String :=
  s!"SELECT * FROM {table} WHERE {k.keyColumn} = $1"

/-- Counts the archived rows. -/
def countArchived (k : Kind) : String :=
  "SELECT COUNT(*) FROM " ++ k.archiveTable

/-- Counts the archived rows and tells when the first and the last were archived. -/
def summary (k : Kind) : String :=
  "SELECT COUNT(*) AS count, MIN(archived_date) AS oldest, MAX(archived_date) AS newest FROM " ++
    k.archiveTable

/-- A condition that holds of a row whose column refers to no record of a kind. -/
def dangling (column : String) (target : Kind) : String :=
  let absent (table : String) :=
    s!"NOT EXISTS (SELECT 1 FROM {table} t WHERE t.{target.keyColumn} = a.{column})"
  absent target.liveTable ++ " AND " ++ absent target.archiveTable

/-- Counts the rows of a table whose column refers to no record of a kind. -/
def countDangling (table column : String) (target : Kind) : String :=
  s!"SELECT COUNT(*) FROM {table} a WHERE " ++ dangling column target

/-- Counts the rows of a table that have a column which refers to no record of its kind. -/
def countAnyDangling (table : String) (references : List (String × Kind)) : String :=
  s!"SELECT COUNT(*) FROM {table} a WHERE " ++
    joinWith " OR " (references.map fun (column, target) =>
      "(" ++ dangling column target ++ ")")

/-- Writes a log entry. -/
def logInsert : String :=
  "INSERT INTO tbl_archive_log (table_name, record_id, operation, performed_by_user_id, reason) " ++
    "VALUES ($1, $2, $3, $4, $5) RETURNING log_id, table_name, record_id, operation, " ++
    "performed_by_user_id, operation_date, reason"

/-- Counts the active pets of an owner. -/
def activePetCount : String :=
  "SELECT COUNT(*) FROM tbl_pet WHERE pet_owner_id = $1 AND archived = FALSE"

/-- Selects a live pet owner. -/
def petOwnerByKey : String :=
  "SELECT pet_owner_id FROM tbl_pet_owner WHERE pet_owner_id = $1"

/-- Locks a live pet owner against the return of pets. -/
def petOwnerLock : String :=
  petOwnerByKey ++ " FOR UPDATE"

/-- Holds a live pet owner while a pet comes back. -/
def petOwnerShare : String :=
  petOwnerByKey ++ " FOR SHARE"

/-- Selects the owner of an archived pet. -/
def archivedPetOwner : String :=
  "SELECT pet_owner_id FROM tbl_pet_archive WHERE pet_id = $1"

end AdoptionRecords.Statement
