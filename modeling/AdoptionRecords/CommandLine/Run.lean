import AdoptionRecords.CommandLine.Command
import AdoptionRecords.Connection
import AdoptionRecords.Display
import AdoptionRecords.Json.Encode
import AdoptionRecords.Retention.Run
import AdoptionRecords.Settings

/-! Carrying out a command: what is printed, which errors are told, and whether it succeeded. The
exit status is zero when a command did what it was asked for.
-/

namespace AdoptionRecords.CommandLine

/-- What a run of the program leaves: its exit status, the texts that it printed and the errors
that it told.
-/
structure Reply where
  exit : Nat
  printed : List String
  errors : List String
  deriving DecidableEq, Repr

namespace Reply

/-- A reply that prints one text. -/
def print (succeeded : Bool) (text : String) : Reply where
  exit := if succeeded then 0 else 1
  printed := [text]
  errors := []

/-- A reply that tells one error. -/
def error (text : String) : Reply where
  exit := 1
  printed := []
  errors := ["Error: " ++ text]

/-- A reply that tells of a fault and what lies behind it. -/
def fault (f : Fault) : Reply :=
  error (Text.joinWith ": " f.chain)

/-- The reply to arguments that are not understood. -/
def refused : Reply where
  exit := 2
  printed := []
  errors := []

/-- The reply of a program that broke off. -/
def crashed : Reply where
  exit := 101
  printed := []
  errors := []

end Reply

/-- The name of the program. -/
def programName : String :=
  "furever-archive"

/-- The version of the program. -/
def programVersion : String :=
  "2026.10.0"

/-- The name and the version of the program, or of one of its commands. -/
def versionText : Option String → String
  | none => s!"{programName} {programVersion}"
  | some command => s!"{programName}-{command} {programVersion}"

/-- How the program is called. -/
def usage : String :=
  s!"Usage: {programName} [--json] [--database-url <DATABASE_URL>] <COMMAND>\n\nCommands:\n  " ++
    Text.joinWith "\n  " (Command.signatures.map Prod.fst)

/-- Prints a value as JSON or as a text. -/
def display (json : Bool) (succeeded : Bool) (value : Json) (text : String) : Reply :=
  .print succeeded (if json then value.pretty else text)

/-- Shows the outcome of a transition. -/
def showOutcome (json : Bool) (verb : String) (kind : Kind) (key : Int) (o : Outcome) : Reply :=
  display json o.isCompleted o.json (Display.outcome verb kind key o)

/-- Shows whether the flag of a pet was changed. -/
def showFlag (json : Bool) (pet : Int) (done undone : String) : Except Fault Bool → Reply
  | .ok changed =>
      display json changed (.object [("changed", .bool changed), ("pet_id", .int pet)])
        (if changed then done else undone)
  | .error fault => .fault fault

/-- Makes passes of a retention worker until it is interrupted, and prints a report for each. -/
def runWorker (actor : Option Int) : Nat → Session (List String)
  | 0 => return []
  | passes + 1 => do
      let report ← Retention.run actor
      return Display.retention report :: (← runWorker actor passes)

/-- Carries out a command. A worker is interrupted after a number of passes. -/
def Command.run (env : Environment) (passes : Nat) (json : Bool) : Command → Session Reply
  | transition verb t => do
      return showOutcome json verb t.kind t.key (← Database.transition t)
  | statistics => do
      let counts := Overview.statistics (← get)
      return display json true counts.json (Display.statistics counts)
  | summary => do
      let rows := Overview.summary (← get)
      return display json true (.array (rows.map Summary.json)) (Display.summary rows)
  | recent limit kind => do
      let entries := Overview.recent (← get) limit kind
      return display json true (.array (entries.map Form.logEntry.json))
        (Display.logEntries entries)
  | list kind limit => do
      let records := Overview.listArchived (← get) kind limit
      return display json true (.array (records.map Form.archivedRecord.json))
        (Display.archivedRecords kind records)
  | integrity => do
      let issues := Overview.integrity (← get)
      return display json issues.isEmpty (.array (issues.map .text)) (Display.integrity issues)
  | autoArchive actor => do
      let today := (← get).clock.date
      let requestsArchived ← Retention.archiveRequests today actor
      let petsArchived ← Retention.archivePets today actor
      let report : Retention.Report := { requestsArchived, petsArchived, logEntriesPruned := 0 }
      return display json true (Form.report.json report) (Display.retention report)
  | cleanUpLog days => do
      let removed ← Database.cleanUpLog days
      return display json true (.object [("deleted", .int removed)])
        s!"Deleted {removed} audit log entries older than {days} days"
  | flagPet pet => do
      return showFlag json pet s!"Flagged pet {pet} as archived"
        s!"Pet {pet} not found or already flagged" (← Database.flagPet pet)
  | unflagPet pet => do
      return showFlag json pet s!"Cleared archived flag on pet {pet}"
        s!"Pet {pet} not found or not flagged" (← Database.unflagPet pet)
  | updateUser u => do
      match ← Database.updateUser u with
      | .ok change => return display json true change.json (Display.roleChange u.key change)
      | .error fault => return .fault fault
  | deleteUser user => do
      return showOutcome json "delete" .user user (← Database.deleteUser user)
  | worker => do
      let settings := Retention.Worker.Settings.ofEnvironment env
      if settings.enabled then
        return { exit := 0, printed := ← runWorker settings.actor passes, errors := [] }
      else
        return { exit := 0, printed := [], errors := [] }
  | migrate => do
      match ← Database.migrate with
      | .ok _ => return .print true "Migrations applied"
      | .error fault =>
          return .error (Text.joinWith ": " ("failed to apply migrations" :: fault.chain))

/-- Carries out an invocation on a store that was connected to, with the policy of the environment. -/
def Invocation.run (env : Environment) (passes : Nat) (i : Invocation) : Session Reply := do
  modify fun d => { d with policy := .ofEnvironment env }
  i.command.run env passes i.json

/-- Places in which nobody can make a file: a device, and where the system tells of itself. -/
def closedPlaces : List String :=
  ["/dev/null/", "/proc/", "/sys/"]

/-- Whether a file for the log can be made, if the environment asks for one. -/
def canLog (env : Environment) : Bool :=
  match env "LOG_FILE" with
  | some path => !closedPlaces.any fun place => place.isPrefixOf path && place ≠ path
  | none => true

/-- What comes of opening the log and connecting to the store. -/
inductive Attempt
  | connected
  | failed
  | crashed
  deriving DecidableEq, Repr

namespace Attempt

/-- Opens the log and connects for an invocation. A log that cannot be made crashes the program. An
address is read before the time to wait for it is looked at, and a wait without a moment at which
it ends crashes the program too. Only the store's own address, which is taken when no other is
given, leads to a store; and some time is spent on getting there.
-/
def ofInvocation (env : Environment) (i : Invocation) : Attempt :=
  let address := i.address.orElse fun _ => env "DATABASE_URL"
  let wait := (PoolSettings.ofEnvironment env).connectTimeout
  if !canLog env then crashed
  else if address.any fun a => !Connection.accepts a then failed
  else if PoolSettings.longestWait < wait then crashed
  else if address.isSome || wait = 0 then failed
  else connected

end Attempt

/-- Runs the program. Nothing of a command is done without a log and a connection. -/
def run (env : Environment) (passes : Nat) (arguments : List String) : Session Reply := do
  match Reading.ofArguments arguments with
  | .refused => return .refused
  | .help => return .print true usage
  | .version command => return .print true (versionText command)
  | .run invocation =>
      match Attempt.ofInvocation env invocation with
      | .connected => invocation.run env passes
      | .failed => return .error "failed to connect to database"
      | .crashed => return .crashed

end AdoptionRecords.CommandLine
