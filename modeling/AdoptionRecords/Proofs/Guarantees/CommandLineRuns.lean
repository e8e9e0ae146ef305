import AdoptionRecords.Proofs.CommandLine.Asking
import AdoptionRecords.Proofs.Guarantees.SoftFlags
import AdoptionRecords.Proofs.History.Appending

/-! Commands of the command line. A command leaves the database as the calls that it stands for leave it,
and its exit status tells whether they did what they were asked for. The flag for JSON output changes
neither.
-/

namespace AdoptionRecords

open Calendar

-----------------------------------------------------------------------------------------
-- Log entries that are kept
-----------------------------------------------------------------------------------------

/-- Every change but the removal of rows keeps the rows of the log. -/
theorem Store.Makes.find?_logRows {now : Instant} {s after : Store} {c : Change} {number : Int}
    {row : LogRow} (made : s.Makes now c after) (kept : ∀ keep, c ≠ .prune keep)
    (found : s.tables.logRows.find? number = some row)
    : after.tables.logRows.find? number = some row := by
  have insert {rows : Table LogRow} {next : Int} (entry : LogRow) (held : s.tables.logRows = rows)
      (free : rows.contains next = false)
      : (rows.insert next entry).find? number = some row := by
    rw [held] at found
    have other : number ≠ next := by
      rintro rfl
      rw [Table.contains, found] at free
      cases free
    rw [Table.find?_insert, if_neg other, found]
  cases made with
  | create | amend => exact found
  | transition moves present free =>
      rw [Tables.logRows_of_log (Tables.setLog_log ..)]
      exact insert _ (Tables.logRows_of_log (moves.log_eq.symm.trans present)) free
  | note present free =>
      rw [Tables.logRows_of_log (Tables.setLog_log ..)]
      exact insert _ (Tables.logRows_of_log present) free
  | prune => exact (kept _ rfl).elim
  | complete =>
      cases present : s.tables.log with
      | none =>
          rw [Tables.logRows, present] at found
          cases found
      | some rows => simpa [Tables.logRows, Tables.complete, present] using found

/-- Requests that prune nothing keep the rows of the log. -/
theorem Database.find?_logRows_after {d : Database} {requests : List Request} {number : Int}
    {row : LogRow} (kept : ∀ r ∈ requests, ¬ r.Prunes)
    (found : d.store.tables.logRows.find? number = some row)
    : (d.after requests).store.tables.logRows.find? number = some row := by
  have throughout : d.Throughout (fun _ r => ¬ r.Prunes) requests :=
    .of_forall (fun r member _ => kept r member) d
  refine preserves_tables (fun t => t.logRows.find? number = some row) ?_ throughout found
  intro _ r s c after keeps caused held made
  refine made.find?_logRows ?_ held
  rintro keep rfl
  exact Request.not_causes_prune keeps caused

-----------------------------------------------------------------------------------------
-- Flags that are turned
-----------------------------------------------------------------------------------------

namespace Database

variable {d : Database} {pet : Int}

/-- The flag of a pet was turned exactly if the row of the pet is another one than before. -/
theorem perform_turn_eq_true_iff_changed (work : Instant → Work Bool) {before : Bool}
    {change : LiveRow .pet → LiveRow .pet} (turns : work d.now = Flag.turn pet before change)
    (turned : ∀ row, (change row).archived ≠ some before)
    : ((perform work).run d).1 = .ok true
      ↔ ((perform work).run d).2.store.tables.liveRow? .pet pet
          ≠ d.store.tables.liveRow? .pet pet := by
  rcases perform_turn_cases work turns
    with ⟨refused, same⟩ | ⟨done, -, pets, row, present, found, was, -, after⟩
  · rw [same]
    exact iff_of_false refused fun changed => changed rfl
  · refine iff_of_true done ?_
    rw [after, Tables.liveRow?_setLive_same, Table.find?_insert, if_pos rfl,
      Tables.liveRow?_of_live present, found]
    intro same
    exact turned row ((congrArg LiveRow.archived (Option.some.inj same)).trans was)

theorem flagPet_eq_true_iff_changed
    : ((flagPet pet).run d).1 = .ok true
      ↔ ((flagPet pet).run d).2.store.tables.liveRow? .pet pet
          ≠ d.store.tables.liveRow? .pet pet :=
  perform_turn_eq_true_iff_changed (fun now => Flag.setPet pet now) (Flag.setPet_eq_turn pet d.now)
    fun _ => nofun

theorem unflagPet_eq_true_iff_changed
    : ((unflagPet pet).run d).1 = .ok true
      ↔ ((unflagPet pet).run d).2.store.tables.liveRow? .pet pet
          ≠ d.store.tables.liveRow? .pet pet :=
  perform_turn_eq_true_iff_changed (fun _ => Flag.clearPet pet) (Flag.clearPet_eq_turn pet)
    fun _ => nofun

end Database

namespace CommandLine

-----------------------------------------------------------------------------------------
-- What a command stands for
-----------------------------------------------------------------------------------------

/-- The calls of the library that a command stands for, on a given date. The commands that only look at
the store stand for none, and so does a worker, which is no single call.
-/
def Command.requests (today : Date) : Command → List Request
  | transition _ t => [.transition t]
  | autoArchive actor => [.archiveRequests today actor, .archivePets today actor]
  | cleanUpLog days => [.cleanUpLog days]
  | flagPet pet => [.flagPet pet]
  | unflagPet pet => [.unflagPet pet]
  | updateUser u => [.updateUser u]
  | deleteUser user => [.deleteUser user]
  | migrate => [.migrate]
  | statistics | summary | recent .. | list .. | integrity | worker => []

/-- What must become of a command on a database for it to succeed. -/
def Command.Succeeds (d : Database) : Command → Prop
  | transition _ t => ∃ entry, ((Database.transition t).run d).1 = .completed entry
  | deleteUser user => ∃ entry, ((Database.deleteUser user).run d).1 = .completed entry
  | flagPet pet =>
      (d.after [.flagPet pet]).store.tables.liveRow? .pet pet ≠ d.store.tables.liveRow? .pet pet
  | unflagPet pet =>
      (d.after [.unflagPet pet]).store.tables.liveRow? .pet pet ≠ d.store.tables.liveRow? .pet pet
  | integrity => Overview.integrity d = []
  | updateUser u => ∃ change, ((Database.updateUser u).run d).1 = .ok change
  | migrate => ∃ done, (Database.migrate.run d).1 = .ok done
  | statistics | summary | recent .. | list .. | autoArchive .. | cleanUpLog .. | worker => True

variable {d : Database} {env : Environment} {passes : Nat} {json : Bool} {c : Command}

/-- A command leaves the database as its calls leave it. -/
theorem Command.after_run (other : c ≠ .worker)
    : ((c.run env passes json).run d).2 = d.after (c.requests d.clock.date) := by
  cases c with
  | worker => exact (other rfl).elim
  | updateUser u =>
      show ((Command.run env passes json (.updateUser u)).run d).2
        = ((Database.updateUser u).run d).2
      rw [Command.run, Session.run_bind]
      cases ((Database.updateUser u).run d).1 <;> rfl
  | migrate =>
      show ((Command.run env passes json .migrate).run d).2 = (Database.migrate.run d).2
      rw [Command.run, Session.run_bind]
      cases (Database.migrate.run d).1 <;> rfl
  | _ => rfl

/-- What is displayed does not tell whether a command succeeded; the exit status does. -/
theorem exit_display (succeeded : Bool) (value : Json) (text : String)
    : (display json succeeded value text).exit = 0 ↔ succeeded = true := by
  cases succeeded with
  | false => exact iff_of_false Nat.one_ne_zero Bool.false_ne_true
  | true => exact iff_of_true rfl rfl

theorem isCompleted_iff {o : Outcome} : o.isCompleted = true ↔ ∃ entry, o = .completed entry := by
  constructor
  · cases o with
    | completed entry => exact fun _ => ⟨entry, rfl⟩
    | _ => exact fun completed => (Bool.false_ne_true completed).elim
  · rintro ⟨entry, rfl⟩
    rfl

theorem exit_showFlag (pet : Int) (done undone : String) (answer : Except Fault Bool)
    : (showFlag json pet done undone answer).exit = 0 ↔ answer = .ok true := by
  cases answer with
  | error fault => exact iff_of_false Nat.one_ne_zero nofun
  | ok changed =>
      rw [showFlag, exit_display, Except.ok.injEq]

/-- The exit status of a command tells whether it succeeded. -/
theorem Command.exit_run_eq_zero_iff (other : c ≠ .worker)
    : ((c.run env passes json).run d).1.exit = 0 ↔ c.Succeeds d := by
  cases c with
  | worker => exact (other rfl).elim
  | transition verb t => exact (exit_display ..).trans isCompleted_iff
  | deleteUser user => exact (exit_display ..).trans isCompleted_iff
  | flagPet pet => exact (exit_showFlag ..).trans Database.flagPet_eq_true_iff_changed
  | unflagPet pet => exact (exit_showFlag ..).trans Database.unflagPet_eq_true_iff_changed
  | integrity => exact (exit_display ..).trans List.isEmpty_iff
  | updateUser u =>
      rw [Command.run, Session.run_bind, Succeeds]
      cases ((Database.updateUser u).run d).1 with
      | ok change => exact iff_of_true rfl ⟨change, rfl⟩
      | error fault => exact iff_of_false Nat.one_ne_zero nofun
  | migrate =>
      rw [Command.run, Session.run_bind, Succeeds]
      cases (Database.migrate.run d).1 with
      | ok done => exact iff_of_true rfl ⟨done, rfl⟩
      | error fault => exact iff_of_false Nat.one_ne_zero nofun
  | statistics | summary | recent _ _ | list _ _ | autoArchive _ | cleanUpLog _ =>
      exact (exit_display ..).trans (iff_of_true rfl trivial)

/-- Two runs that left one exit status and one database, whatever they printed. -/
structure SameBesideText (first second : Reply × Database) : Prop where
  exit : first.1.exit = second.1.exit
  database : first.2 = second.2

theorem exit_showFlag_json (json json' : Bool) (pet : Int) (done undone : String)
    (answer : Except Fault Bool)
    : (showFlag json pet done undone answer).exit = (showFlag json' pet done undone answer).exit := by
  cases answer <;> rfl

/-- The flag for JSON output changes what a command prints, and nothing else. -/
theorem Command.run_json (c : Command) (json json' : Bool)
    : SameBesideText ((c.run env passes json).run d) ((c.run env passes json').run d) := by
  cases c with
  | flagPet pet => exact ⟨exit_showFlag_json .., rfl⟩
  | unflagPet pet => exact ⟨exit_showFlag_json .., rfl⟩
  | updateUser u =>
      rw [Command.run, Command.run, Session.run_bind, Session.run_bind]
      cases ((Database.updateUser u).run d).1 <;> exact ⟨rfl, rfl⟩
  | _ => exact ⟨rfl, rfl⟩

/-- Only the clean-up of the log removes rows of it. -/
theorem Command.not_prunes (today : Date) (other : ∀ days, c ≠ .cleanUpLog days)
    : ∀ r ∈ c.requests today, ¬ r.Prunes := by
  cases c with
  | cleanUpLog days => exact (other days rfl).elim
  | _ => simp [requests, Request.Prunes]

-----------------------------------------------------------------------------------------
-- Command lines
-----------------------------------------------------------------------------------------

/-- The database with the policy that the environment sets. -/
def withPolicyOf (d : Database) (env : Environment) : Database :=
  { d with policy := .ofEnvironment env }

variable {arguments before after : List String} {i j : Invocation}

theorem Invocation.run_eq (i : Invocation) (env : Environment) (passes : Nat) (d : Database)
    : (i.run env passes).run d = (i.command.run env passes i.json).run (withPolicyOf d env) := by
  rw [Invocation.run, Session.run_bind]
  rfl

/-- A command line that is understood is carried out once the store is reached. -/
theorem run_of_parsed (parsed : Reading.ofArguments arguments = .run i)
    : run env passes arguments =
        match Attempt.ofInvocation env i with
        | .connected => i.run env passes
        | .failed => return .error "failed to connect to database"
        | .crashed => return .crashed := by
  unfold run
  cases reached : Attempt.ofInvocation env i <;> simp only [parsed, reached]

/-- An invocation carries out the calls of its command: the database is left as they leave it, under the
policy of the environment, and the exit status tells whether they did what they were asked for. No row
of the log is lost unless this is asked for, and JSON output makes no difference.
-/
structure Invocation.IsFaithful (i : Invocation) (env : Environment) (passes : Nat) (d : Database)
    : Prop where
  database
    : ((i.run env passes).run d).2
      = (withPolicyOf d env).after (i.command.requests d.clock.date)
  exit : ((i.run env passes).run d).1.exit = 0 ↔ i.command.Succeeds (withPolicyOf d env)
  log
    : (∀ days, i.command ≠ .cleanUpLog days) →
        ∀ number row, d.store.tables.logRows.find? number = some row →
          ((i.run env passes).run d).2.store.tables.logRows.find? number = some row
  json
    : ∀ json,
        SameBesideText (({ i with json }.run env passes).run d) ((i.run env passes).run d)

theorem Invocation.isFaithful (i : Invocation) (other : i.command ≠ .worker)
    : i.IsFaithful env passes d where
  database := by
    rw [run_eq, Command.after_run other]
    rfl
  exit := by
    rw [run_eq]
    exact Command.exit_run_eq_zero_iff other
  log := by
    intro keeps number row found
    rw [run_eq, Command.after_run other]
    exact Database.find?_logRows_after (Command.not_prunes _ keeps) found
  json := by
    intro json
    rw [run_eq, run_eq]
    exact Command.run_json ..

/-- The flag put between arguments is read, and nothing else is read in another way. -/
theorem eq_of_insert_flag (parsed : Reading.ofArguments (before ++ after) = .run i)
    (read : Reading.ofArguments (before ++ flagArgument :: after) = .run j)
    : j = { i with json := true } := by
  obtain ⟨on, json, without⟩ := Reading.ofArguments_insert read
  rw [parsed] at without
  cases without
  rw [← on]

/-- Command lines that differ by the flag alone leave the same exit status and database, also if the
store cannot be reached.
-/
theorem run_withJson (parsed : Reading.ofArguments before = .run i)
    (read : Reading.ofArguments after = .run { i with json := true })
    : SameBesideText ((run env passes after).run d) ((run env passes before).run d) := by
  have same : Attempt.ofInvocation env { i with json := true } = Attempt.ofInvocation env i := rfl
  rw [run_of_parsed parsed, run_of_parsed read, same]
  cases Attempt.ofInvocation env i with
  | connected =>
      rw [Invocation.run_eq, Invocation.run_eq]
      exact Command.run_json ..
  | failed => exact ⟨rfl, rfl⟩
  | crashed => exact ⟨rfl, rfl⟩

end CommandLine

end AdoptionRecords
