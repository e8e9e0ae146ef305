/-! The names of the fields in which a narration of the library's work would tell about a call. They are
for whoever narrates; the library reads none of them.
-/

namespace AdoptionRecords.Narration

/-- Where in the library a narrated line comes from. -/
def subsystem : String := "subsystem"

/-- Which part of it tells. -/
def component : String := "component"

/-- Which call is told of. -/
def operation : String := "op"

/-- Which table the call is about. -/
def table : String := "db_table"

/-- Which record the call is about. -/
def record : String := "record_id"

/-- Who made the call. -/
def actor : String := "actor_id"

/-- How many milliseconds the call took. -/
def duration : String := "duration_ms"

/-- How many records the call changed or found. -/
def resultCount : String := "result_count"

/-- Whether the call did what was asked. -/
def success : String := "success"

/-- What went wrong. -/
def error : String := "error"

/-- All fields: where a line comes from, what it is about, what was measured, what came of it. -/
def fields : List String :=
  [subsystem, component, operation, table, record, actor, duration, resultCount, success, error]

/-- No field of a line hides another. -/
theorem nodup_fields : fields.Nodup := by
  decide

end AdoptionRecords.Narration
