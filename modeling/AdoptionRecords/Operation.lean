/-! The transitions that the log records, and their names. -/

namespace AdoptionRecords

/-- The kinds of transition that the log records. -/
inductive Operation
  | archive
  | restore
  | permanentDelete
  deriving DecidableEq, Repr

namespace Operation

/-- Every operation. -/
def all : List Operation :=
  [archive, restore, permanentDelete]

/-- The name of an operation, as the log holds it. -/
def name : Operation → String
  | archive => "ARCHIVE"
  | restore => "RESTORE"
  | permanentDelete => "PERMANENT_DELETE"

/-- The operation with exactly the given name. -/
def read? (s : String) : Option Operation :=
  all.find? fun o => o.name == s

/-- The name of an operation in the types of events. -/
def topic : Operation → String
  | archive => "archive"
  | restore => "restore"
  | permanentDelete => "permanent_delete"

end Operation

end AdoptionRecords
