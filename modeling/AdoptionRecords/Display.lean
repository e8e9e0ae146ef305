import AdoptionRecords.Calendar.Text
import AdoptionRecords.Overview

/-! What people read: outcomes, overviews, listings and reports as lines of text. Columns are
padded with spaces to their widths, and lines of listings have no blanks at their ends.
-/

namespace AdoptionRecords.Display

open Text Calendar

/-- An instant to the second, or a hyphen. -/
def date : Option Instant → String
  | some i => i.display
  | none => "-"

/-- Who acted: a user, or the system by itself. -/
def actor : Option Int → String
  | some user => s!"user {user}"
  | none => "system"

/-- Lines below one another. -/
def lines : List String → String :=
  joinWith "\n"

/-- What became of a transition that was called by a verb. -/
def outcome (verb : String) (kind : Kind) (key : Int) (o : Outcome) : String :=
  let told :=
    match o with
    | .completed entry => s!"ok (log entry {entry.number})"
    | other => other.describe
  s!"{verb} {kind.name} #{key}: {told}"

/-- A line of statistics. -/
def statisticsLine (name : String) (count : Int) : String :=
  padRight 28 name ++ " " ++ padLeft 8 (toString count)

/-- A line for each archive table, then the total. -/
def statistics (s : Statistics) : String :=
  lines (Kind.all.map (fun kind => statisticsLine kind.archiveTable (s.get kind)) ++
    [statisticsLine "total" s.total])

/-- A line of summaries. -/
def summaryLine (entity count oldest newest : String) : String :=
  padRight 18 entity ++ " " ++ padLeft 8 count ++ "  " ++ padRight 19 oldest ++ "  " ++
    padRight 19 newest

/-- A heading, then a line for each summary. -/
def summary (rows : List Summary) : String :=
  lines (summaryLine "entity" "count" "oldest" "newest" ::
    rows.map fun row =>
      summaryLine row.kind.name (toString row.count) (date row.oldest) (date row.newest))

/-- A line for a log entry. -/
def logEntry (e : LogEntry) : String :=
  trimLine (e.performedAt.display ++ "  " ++ padRight 16 e.operation.name ++ " " ++
    padRight 22 e.table ++ " #" ++ padRight 8 (toString e.record) ++ " by " ++
    padRight 10 (actor e.performedBy) ++ " " ++ e.reason.getD "")

/-- A line for each log entry. -/
def logEntries (entries : List LogEntry) : String :=
  if entries.isEmpty then "No archive operations recorded." else lines (entries.map logEntry)

/-- A line for an archived record. -/
def archivedRecord (r : ArchivedRecord) : String :=
  trimLine ("#" ++ padRight 8 (toString r.key) ++ " " ++ padRight 32 (r.label.getD "-") ++
    " archived " ++ date r.archivedAt ++ " by " ++ padRight 10 (actor r.archivedBy) ++ " " ++
    r.reason.getD "")

/-- A line for each archived record of a kind. -/
def archivedRecords (kind : Kind) (records : List ArchivedRecord) : String :=
  if records.isEmpty then s!"No archived {kind.name} records."
  else lines (records.map archivedRecord)

/-- A line for each issue. -/
def integrity (issues : List String) : String :=
  if issues.isEmpty then "No archive integrity issues found."
  else lines (issues.map ("- " ++ ·))

/-- What a retention run did. -/
def retention (r : Retention.Report) : String :=
  s!"Archived {r.requestsArchived} completed adoption request(s) and {r.petsArchived} adopted " ++
    s!"pet(s); pruned {r.logEntriesPruned} audit entries"

/-- What an update of a user did. -/
def roleChange (user : Int) : RoleChange → String
  | .unchanged none => s!"Updated user {user}"
  | .unchanged (some kind) => s!"Updated user {user}; synced {kind.name} profile"
  | .changed before after flagged created =>
      let changed := s!"Updated user {user}; role {before.name} -> {after.name}"
      let flagged :=
        match flagged with
        | some kind => s!"; flagged {kind.name} profile archived"
        | none => ""
      let created :=
        match created with
        | some kind => s!"; created {kind.name} profile"
        | none => ""
      changed ++ flagged ++ created

end AdoptionRecords.Display
