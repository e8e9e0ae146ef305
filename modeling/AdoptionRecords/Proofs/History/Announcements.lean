import AdoptionRecords.Proofs.History.Appending
import AdoptionRecords.Proofs.Store.Counting

/-! What is announced mirrors what is done and what is logged. Each transition announces its outcome
in one envelope, and nothing else announces transitions; so the completions that are announced are
the entries that are appended to the log, one by one and in order.
-/

namespace AdoptionRecords

open Calendar

/-- What a log entry and the announcement of a completed transition both tell. -/
structure Mention where
  number : Int
  table : Option String
  record : Option Int
  operation : Option String
  actor : Option Int
  deriving DecidableEq, Repr

/-- What a row of the log tells under its number. -/
def LogRow.mention (number : Int) (row : LogRow) : Mention where
  number
  table := row.table
  record := row.record
  operation := row.operationName
  actor := row.performedBy

/-- What an event tells of a completed transition, if it tells of one. -/
def Event.mention? : Event → Option Mention
  | transitionCompleted kind record operation actor number =>
      some ⟨number, some kind.liveTable, some record, some operation.name, actor⟩
  | transitionRejected .. | profileFlagged .. | retentionCompleted _ => none

/-- The topic and the actor of an envelope agree with the event that it encloses. -/
def Envelope.Agrees (e : Envelope) : Prop :=
  match e.event with
  | .transitionCompleted _ _ .archive actor _ => e.topic = "archive.completed" ∧ e.actor = actor
  | .transitionCompleted _ _ .restore actor _ => e.topic = "restore.completed" ∧ e.actor = actor
  | .transitionCompleted _ _ .permanentDelete actor _ =>
      e.topic = "permanent_delete.completed" ∧ e.actor = actor
  | .transitionRejected _ _ .archive actor _ => e.topic = "archive.rejected" ∧ e.actor = actor
  | .transitionRejected _ _ .restore actor _ => e.topic = "restore.rejected" ∧ e.actor = actor
  | .transitionRejected _ _ .permanentDelete actor _ =>
      e.topic = "permanent_delete.rejected" ∧ e.actor = actor
  | .profileFlagged .. => e.topic = "profile.flagged" ∧ e.actor = none
  | .retentionCompleted _ => e.topic = "retention.completed" ∧ e.actor = none

/-- (e.TellsOf t outcome now) holds if an envelope from this instant tells what became of a transition:
that it was completed, under the number of its log entry, or else that it was rejected, with the outcome
in words.
-/
structure Envelope.TellsOf (e : Envelope) (t : Transition) (outcome : Outcome) (now : Instant) : Prop
    where
  occurred : e.occurred = now
  event :
    match outcome with
    | .completed entry =>
        e.event = .transitionCompleted t.kind t.key t.operation t.actor entry.number
    | .notFound | .blocked _ | .failed _ =>
        e.event = .transitionRejected t.kind t.key t.operation t.actor outcome.describe

/-- The envelope of an outcome tells of it, by cases on the outcome. -/
theorem Envelope.TellsOf.enclose (now : Instant) (t : Transition) (outcome : Outcome)
    : (Envelope.enclose now (.ofOutcome t outcome)).TellsOf t outcome now where
  occurred := rfl
  event := by
    cases outcome <;> rfl

/-- An event agrees with its own envelope, by cases on the event. -/
theorem Envelope.agrees_enclose (now : Instant) (event : Event) : (enclose now event).Agrees := by
  cases event with
  | transitionCompleted _ _ operation | transitionRejected _ _ operation =>
      cases operation <;> exact ⟨rfl, rfl⟩
  | profileFlagged | retentionCompleted => exact ⟨rfl, rfl⟩

/-- A request asks for transitions, each in a unit of work of its own. -/
def Request.AsksForTransitions : Request → Prop
  | transition _ | deleteUser _ | archiveRequests .. | archivePets .. | retain _ => True
  | _ => False

/-- The envelopes that a request emits. -/
def Request.emits (r : Request) (d : Database) : List Envelope :=
  (r.after d).emitted.drop d.emitted.length

/-- The envelopes that requests emit. -/
def Database.emits (d : Database) (requests : List Request) : List Envelope :=
  (d.after requests).emitted.drop d.emitted.length

/-- The rows that a request appends to the log. A retention run appends them in its two parts,
before it removes old ones.
-/
def Request.appends (r : Request) (d : Database) : List (Int × LogRow) :=
  match r with
  | retain actor =>
      let between := (archiveRequests d.clock.date actor).after d
      let last := (archivePets d.clock.date actor).after between
      d.store.tables.appended between.store.tables
        ++ between.store.tables.appended last.store.tables
  | _ => d.store.tables.appended (r.after d).store.tables

/-- The rows that requests append to the log. -/
def Database.appends (d : Database) : List Request → List (Int × LogRow)
  | [] => []
  | r :: rest => r.appends d ++ (r.after d).appends rest

-----------------------------------------------------------------------------------------
-- Transitions one after another
-----------------------------------------------------------------------------------------

namespace Database

/-- The events that tell of transitions that are asked for one after another. -/
def told (d : Database) (ts : List Transition) : List Event :=
  (ts.zip (d.outcomes ts)).map fun (t, outcome) => .ofOutcome t outcome

variable {d : Database}

theorem told_cons (d : Database) (t : Transition) (rest : List Transition)
    : d.told (t :: rest)
        = .ofOutcome t ((transition t).run d).1 :: ((transition t).run d).2.told rest :=
  rfl

theorem clock_transition (d : Database) (t : Transition)
    : ((transition t).run d).2.clock = d.clock := by
  rw [transition_eq]

/-- A transition emits one envelope, with its outcome. -/
theorem emitted_transition (d : Database) (t : Transition)
    : ((transition t).run d).2.emitted
        = d.emitted ++ [.enclose d.clock (.ofOutcome t ((transition t).run d).1)] := by
  have unit := perform_eq d t.carryOut
  rw [run_transition]
  rcases h : (perform t.carryOut).run d with ⟨result, after⟩
  rw [h] at unit
  dsimp only at unit ⊢
  rw [unit]

/-- Transitions one after another emit one envelope each, at the same clock; by induction on
them.
-/
theorem after_transitions (d : Database) (ts : List Transition)
    : (d.after (ts.map .transition)).emitted = d.emitted ++ (d.told ts).map (.enclose d.clock)
      ∧ (d.after (ts.map .transition)).clock = d.clock := by
  induction ts generalizing d with
  | nil => exact ⟨(List.append_nil _).symm, rfl⟩
  | cons t rest ih =>
      obtain ⟨emitted, clock⟩ := ih ((transition t).run d).2
      rw [clock_transition] at emitted clock
      refine ⟨?_, clock⟩
      rw [List.map_cons, after, told_cons]
      refine emitted.trans ?_
      rw [emitted_transition, List.append_assoc]
      rfl

/-- (d.Announces ts envelopes) holds if the envelopes, one for each, tell what becomes of transitions
that are asked for one after another.
-/
inductive Announces : Database → List Transition → List Envelope → Prop
  | nil {d : Database} : Announces d [] []
  | cons {d : Database} {t : Transition} {rest : List Transition} {e : Envelope}
    {envelopes : List Envelope} (head : e.TellsOf t ((transition t).run d).1 d.clock)
    (tail : Announces ((transition t).run d).2 rest envelopes)
    : Announces d (t :: rest) (e :: envelopes)

/-- The envelopes of the outcomes tell of the transitions, at one clock; by induction on these. -/
theorem announces_told (d : Database) (ts : List Transition)
    : d.Announces ts ((d.told ts).map (.enclose d.clock)) := by
  induction ts generalizing d with
  | nil => exact .nil
  | cons t rest ih =>
      have later := ih ((transition t).run d).2
      rw [clock_transition] at later
      rw [told_cons, List.map_cons]
      exact .cons (.enclose d.clock t _) later

/-- The completions among the events of transitions are as many as those among the outcomes, by
induction on the transitions.
-/
theorem length_mentions_told (d : Database) (ts : List Transition)
    : ((d.told ts).filterMap Event.mention?).length
        = (d.outcomes ts).countP Outcome.isCompleted := by
  induction ts generalizing d with
  | nil => rfl
  | cons t rest ih =>
      rw [told_cons, outcomes, List.filterMap_cons, List.countP_cons, ← ih]
      cases ((transition t).run d).1 <;>
        simp [Event.ofOutcome, Event.mention?, Outcome.isCompleted]

/-- The events of transitions mention the entries of their deeds, by induction on the transitions. -/
theorem mentions_told (d : Database) (ts : List Transition)
    : (d.told ts).filterMap Event.mention?
        = ((d.deeds (ts.map .transition)).filterMap Deed.entry?).map
            fun e => e.row.mention e.number := by
  induction ts generalizing d with
  | nil => rfl
  | cons t rest ih =>
      have later := ih ((transition t).run d).2
      have deeds_eq : (Request.transition t).deeds d = ((transition t).run d).1.deeds t :=
        Request.deeds_of_kept rfl
      rw [told_cons, List.map_cons, deeds, deeds_eq, List.filterMap_cons, List.filterMap_append,
        List.map_append]
      cases outcome : ((transition t).run d).1 with
      | completed entry =>
          obtain ⟨moved, -, recorded⟩ := Store.yields_carryOut_iff.mp (yields_of_completed outcome)
          obtain ⟨rows, -, -, -, -, rfl, -⟩ := Store.yields_record_iff.mp recorded
          exact congrArg (List.cons _) later
      | notFound | blocked | failed => exact later

/-- The events of transitions mention the rows that these append to the log. -/
theorem mentions_appended (d : Database) (ts : List Transition)
    : (d.told ts).filterMap Event.mention?
        = (d.store.tables.appended (d.after (ts.map .transition)).store.tables).map
            fun (number, row) => row.mention number := by
  have kept : ∀ r ∈ ts.map Request.transition, ¬ r.Prunes := by
    intro r member
    obtain ⟨t, -, rfl⟩ := List.mem_map.mp member
    exact not_false
  rw [mentions_told, appended_after d kept, List.map_map]
  rfl

end Database

namespace Retention

/-- The transitions that archive records. -/
def archivals (kind : Kind) (actor : Option Int) (reason : String) (keys : List Int)
    : List Transition :=
  keys.map fun key => ⟨.archive, kind, key, actor, reason⟩

/-- The transitions that archive the records that are due; none if these cannot be told. -/
def archivalsOfDue (kind : Kind) (actor : Option Int) (reason : String)
    : Except Fault (List Int) → List Transition
  | .ok keys => archivals kind actor reason keys
  | .error _ => []

variable {kind : Kind} {actor : Option Int} {reason : String}

/-- Archiving records makes the transitions of the records, and tells how many were completed; by
induction on the records.
-/
theorem run_archiveEach (d : Database) (keys : List Int)
    : (archiveEach kind actor reason keys).run d
        = ((d.outcomes (archivals kind actor reason keys)).countP Outcome.isCompleted,
          d.after ((archivals kind actor reason keys).map .transition)) := by
  induction keys generalizing d with
  | nil => rfl
  | cons key rest ih =>
      let t : Transition := ⟨.archive, kind, key, actor, reason⟩
      have run := ih ((Database.transition t).run d).2
      have cons : archivals kind actor reason (key :: rest)
          = t :: archivals kind actor reason rest := rfl
      rw [cons, archiveEach, Session.run_bind, Session.run_bind, run, Session.run_pure,
        Database.outcomes, List.countP_cons, Nat.add_comm]
      rfl

theorem run_archiveDue (d : Database) (due : Except Fault (List Int))
    : (archiveDue kind actor reason due).run d
        = ((d.outcomes (archivalsOfDue kind actor reason due)).countP Outcome.isCompleted,
          d.after ((archivalsOfDue kind actor reason due).map .transition)) := by
  cases due with
  | ok keys => exact run_archiveEach d keys
  | error fault => rfl

/-- A retention run archives the requests that are due, then the pets, then cleans the log up, and
announces what it reports.
-/
theorem run_run (d : Database) (actor : Option Int)
    : let requests := (archiveRequests d.clock.date actor).run d
      let pets := (archivePets d.clock.date actor).run requests.2
      let cleaned := (Database.cleanUpLog d.policy.logKeepDays).run pets.2
      let report : Report := ⟨requests.1, pets.1, cleaned.1⟩
      (run actor).run d
        = (report, ((Database.announce (.retentionCompleted report)).run cleaned.2).2) := by
  rw [run, Session.run_bind, Session.run_get, Session.run_bind, Session.run_bind,
    Session.run_bind, Session.run_bind, Session.run_pure]

end Retention

-----------------------------------------------------------------------------------------
-- Requests
-----------------------------------------------------------------------------------------

namespace Database

/-- The transitions by which the requests that are due are archived. -/
def requestArchivals (d : Database) (today : Date) (actor : Option Int) : List Transition :=
  Retention.archivalsOfDue .adoptionRequest actor d.policy.requestReason
    (d.ask (Retention.dueRequests d.policy today))

/-- The transitions by which the pets that are due are archived. -/
def petArchivals (d : Database) (today : Date) (actor : Option Int) : List Transition :=
  Retention.archivalsOfDue .pet actor d.policy.petReason
    (d.ask (Retention.duePets d.policy today))

theorem run_archiveRequests (d : Database) (today : Date) (actor : Option Int)
    : (Retention.archiveRequests today actor).run d
        = ((d.outcomes (d.requestArchivals today actor)).countP Outcome.isCompleted,
          d.after ((d.requestArchivals today actor).map .transition)) := by
  rw [Retention.archiveRequests, Session.run_bind, Session.run_get]
  exact Retention.run_archiveDue d _

theorem run_archivePets (d : Database) (today : Date) (actor : Option Int)
    : (Retention.archivePets today actor).run d
        = ((d.outcomes (d.petArchivals today actor)).countP Outcome.isCompleted,
          d.after ((d.petArchivals today actor).map .transition)) := by
  rw [Retention.archivePets, Session.run_bind, Session.run_get]
  exact Retention.run_archiveDue d _

/-- A unit of work by itself emits nothing. -/
theorem emitted_perform {α : Type} (d : Database) (work : Instant → Work α)
    : ((perform work).run d).2.emitted = d.emitted := by
  rw [perform_eq]

/-- An update of a user emits an envelope if it flagged an old profile, and no other. -/
theorem emitted_updateUser (d : Database) (u : UserUpdate)
    : ((updateUser u).run d).2.emitted
        = d.emitted ++ List.map (.enclose d.clock)
            (match ((perform u.carryOut).run d).1 with
            | .ok (oldName, _, plan) =>
                plan.flagOld.toList.map fun profile => .profileFlagged profile.kind oldName
            | .error _ => []) := by
  have unit := perform_eq d u.carryOut
  simp only [updateUser, Session.run_bind]
  rcases h : (perform u.carryOut).run d with ⟨result, after⟩
  rw [h] at unit
  dsimp only at unit ⊢
  rw [unit]
  cases result with
  | error fault => exact (List.append_nil _).symm
  | ok found =>
      obtain ⟨oldName, role, plan⟩ := found
      dsimp only
      cases plan.flagOld with
      | none => exact (List.append_nil _).symm
      | some profile => rfl

/-- Applying the schema emits nothing. -/
theorem emitted_migrate (d : Database) : ((migrate).run d).2.emitted = d.emitted := by
  have unit := emitted_perform d Schema.apply
  simp only [migrate, Session.run_bind]
  rcases ((perform Schema.apply).run d).1 with fault | done
  · cases fault <;> exact unit
  · exact unit

/-- A transaction emits nothing. -/
theorem emitted_transact (d : Database) (calls : List Call) (commit : Bool)
    : ((transact calls commit).run d).2.emitted = d.emitted := by
  rw [run_transact]
  split <;> rfl

/-- Removing log entries emits nothing. -/
theorem emitted_cleanUpLog (d : Database) (days : Int)
    : ((cleanUpLog days).run d).2.emitted = d.emitted ∧ ((cleanUpLog days).run d).2.clock = d.clock := by
  simp only [cleanUpLog, Session.run_bind, Session.run_get]
  cases d.clock.daysBefore? days with
  | none => exact ⟨rfl, rfl⟩
  | some cutoff =>
      have unit := perform_eq d fun _ => Log.prune cutoff
      dsimp only
      rw [Session.run_bind]
      have same : ((pruneLog cutoff).run d).2.emitted = d.emitted
          ∧ ((pruneLog cutoff).run d).2.clock = d.clock := by
        rw [pruneLog, unit]
        exact ⟨rfl, rfl⟩
      cases ((pruneLog cutoff).run d).1 <;> exact same

end Database

namespace Request

/-- The events that a request tells of. -/
def events (d : Database) : Request → List Event
  | transition t => d.told [t]
  | deleteUser user => d.told [Database.deletion user]
  | updateUser u =>
      match ((Database.perform u.carryOut).run d).1 with
      | .ok (oldName, _, plan) =>
          plan.flagOld.toList.map fun profile => .profileFlagged profile.kind oldName
      | .error _ => []
  | archiveRequests today actor => d.told (d.requestArchivals today actor)
  | archivePets today actor => d.told (d.petArchivals today actor)
  | retain actor =>
      let between := (archiveRequests d.clock.date actor).after d
      d.told (d.requestArchivals d.clock.date actor)
        ++ between.told (between.petArchivals d.clock.date actor)
        ++ [.retentionCompleted ((Retention.run actor).run d).1]
  | create .. | flagPet _ | unflagPet _ | cleanUpLog _ | pruneLog _ | transact .. | migrate
  | surroundings .. => []

variable {d : Database}

theorem after_archiveRequests (d : Database) (today : Date) (actor : Option Int)
    : (archiveRequests today actor).after d
        = d.after ((d.requestArchivals today actor).map .transition) := by
  exact congrArg Prod.snd (d.run_archiveRequests today actor)

theorem after_archivePets (d : Database) (today : Date) (actor : Option Int)
    : (archivePets today actor).after d
        = d.after ((d.petArchivals today actor).map .transition) := by
  exact congrArg Prod.snd (d.run_archivePets today actor)

/-- A retention run emits what its two parts emit, and its report; it tells how many transitions of
each part were completed.
-/
theorem run_retain (d : Database) (actor : Option Int)
    : let between := (archiveRequests d.clock.date actor).after d
      ((retain actor).after d).emitted
        = d.emitted ++ ((retain actor).events d).map (.enclose d.clock)
      ∧ ((Retention.run actor).run d).1.requestsArchived
        = (d.outcomes (d.requestArchivals d.clock.date actor)).countP Outcome.isCompleted
      ∧ ((Retention.run actor).run d).1.petsArchived
        = (between.outcomes (between.petArchivals d.clock.date actor)).countP
            Outcome.isCompleted := by
  intro between
  let last := (archivePets d.clock.date actor).after between
  let cleaned := (Database.cleanUpLog d.policy.logKeepDays).run last
  let report : Retention.Report :=
    ⟨((Retention.archiveRequests d.clock.date actor).run d).1,
      ((Retention.archivePets d.clock.date actor).run between).1, cleaned.1⟩
  have run : (Retention.run actor).run d
      = (report, ((Database.announce (.retentionCompleted report)).run cleaned.2).2) :=
    Retention.run_run d actor
  -- Neither the archiving nor the cleaning moves the clock, so one instant stands in all envelopes.
  obtain ⟨emitted, clock⟩ := d.after_transitions (d.requestArchivals d.clock.date actor)
  obtain ⟨emitted', clock'⟩ := between.after_transitions (between.petArchivals d.clock.date actor)
  obtain ⟨unchanged, clock''⟩ := last.emitted_cleanUpLog d.policy.logKeepDays
  rw [← after_archiveRequests] at emitted clock
  rw [← after_archivePets] at emitted' clock'
  refine ⟨?_, ?_, ?_⟩
  · have announced : ((retain actor).after d).emitted
        = cleaned.2.emitted ++ [.enclose cleaned.2.clock (.retentionCompleted report)] :=
      congrArg (fun result => result.2.emitted) run
    rw [announced, unchanged, clock'', emitted', clock', clock, emitted, events, run]
    simp only [List.map_append, List.append_assoc, List.map_cons, List.map_nil]
    rfl
  · rw [run]
    exact congrArg Prod.fst (d.run_archiveRequests d.clock.date actor)
  · rw [run]
    exact congrArg Prod.fst (between.run_archivePets d.clock.date actor)

/-- A request that tells of nothing emits nothing. -/
theorem emitted_of_untold {r : Request} (untold : r.events d = [])
    (same : (r.after d).emitted = d.emitted)
    : (r.after d).emitted = d.emitted ++ (r.events d).map (.enclose d.clock) := by
  rw [untold, List.map_nil, List.append_nil, same]

/-- The envelopes that a request emits enclose the events that it tells of. -/
theorem emitted_after (r : Request) (d : Database)
    : (r.after d).emitted = d.emitted ++ (r.events d).map (.enclose d.clock) := by
  cases r with
  | transition t => exact d.emitted_transition t
  | deleteUser user => exact d.emitted_transition (Database.deletion user)
  | updateUser u => exact d.emitted_updateUser u
  | archiveRequests today actor =>
      rw [after_archiveRequests, (d.after_transitions _).1]
      rfl
  | archivePets today actor =>
      rw [after_archivePets, (d.after_transitions _).1]
      rfl
  | retain actor => exact (run_retain d actor).1
  | create kind content =>
      exact emitted_of_untold rfl (d.emitted_perform fun _ => Work.createLive kind content)
  | flagPet pet => exact emitted_of_untold rfl (d.emitted_perform fun now => Flag.setPet pet now)
  | unflagPet pet => exact emitted_of_untold rfl (d.emitted_perform fun _ => Flag.clearPet pet)
  | cleanUpLog days => exact emitted_of_untold rfl (d.emitted_cleanUpLog days).1
  | pruneLog cutoff => exact emitted_of_untold rfl (d.emitted_perform fun _ => Log.prune cutoff)
  | transact calls commit => exact emitted_of_untold rfl (d.emitted_transact calls commit)
  | migrate => exact emitted_of_untold rfl d.emitted_migrate
  | surroundings => exact emitted_of_untold rfl rfl

theorem emits_eq (r : Request) (d : Database)
    : r.emits d = (r.events d).map (.enclose d.clock) := by
  rw [emits, emitted_after, List.drop_left]

/-- A request whose deeds have no log entries appends nothing to the log. -/
theorem appends_of_silent {r : Request} (kept : ¬ r.Prunes)
    (silent : (r.deeds d).filterMap Deed.entry? = [])
    : r.appends d = [] := by
  have appended := d.appended_after (List.forall_mem_singleton.mpr kept)
  rw [Database.deeds, Database.deeds, List.append_nil, silent] at appended
  cases r with
  | retain => exact (kept trivial).elim
  | _ => exact appended

/-- A request that announces nothing and appends nothing to the log mentions nothing. -/
theorem mentions_of_silent {r : Request} (untold : r.events d = []) (unlogged : r.appends d = [])
    : (r.events d).filterMap Event.mention?
        = (r.appends d).map fun (number, row) => row.mention number := by
  rw [untold, unlogged]
  rfl

/-- The events of a request that is not a transaction mention the rows that it appends to the log. -/
theorem mentions_events (r : Request) (d : Database)
    (single : ∀ calls commit, r ≠ transact calls commit)
    : (r.events d).filterMap Event.mention?
        = (r.appends d).map fun (number, row) => row.mention number := by
  cases r with
  | transition t => exact d.mentions_appended [t]
  | deleteUser user => exact d.mentions_appended [Database.deletion user]
  | archiveRequests today actor =>
      have mentions := d.mentions_appended (d.requestArchivals today actor)
      rwa [← after_archiveRequests] at mentions
  | archivePets today actor =>
      have mentions := d.mentions_appended (d.petArchivals today actor)
      rwa [← after_archivePets] at mentions
  | retain actor =>
      have first := d.mentions_appended (d.requestArchivals d.clock.date actor)
      rw [← after_archiveRequests] at first
      have second := ((archiveRequests d.clock.date actor).after d).mentions_appended
        (((archiveRequests d.clock.date actor).after d).petArchivals d.clock.date actor)
      rw [← after_archivePets] at second
      simp only [events, appends, List.filterMap_append, List.map_append, first, second]
      exact List.append_nil _
  | updateUser u =>
      have silent : ((updateUser u).deeds d).filterMap Deed.entry? = [] := by
        rw [deeds_of_kept rfl, answered]
        split <;> rfl
      have nothing : (updateUser u).appends d = [] := appends_of_silent not_false silent
      rw [nothing, events]
      rcases ((Database.perform u.carryOut).run d).1 with fault | ⟨oldName, role, plan⟩
      · rfl
      · cases flagged : plan.flagOld <;> simp [flagged, Event.mention?]
  | create kind content =>
      have silent : ((create kind content).deeds d).filterMap Deed.entry? = [] := by
        rw [deeds_of_kept rfl, answered]
        split <;> rfl
      exact mentions_of_silent rfl (appends_of_silent not_false silent)
  | flagPet | unflagPet | migrate | surroundings =>
      exact mentions_of_silent rfl (appends_of_silent (fun prunes => prunes) rfl)
  | cleanUpLog days =>
      exact mentions_of_silent rfl ((cleanUpLog days).runs d).appended_of_prunes
  | pruneLog cutoff =>
      exact mentions_of_silent rfl ((pruneLog cutoff).runs d).appended_of_prunes
  | transact calls commit => exact (single calls commit rfl).elim

end Request

-----------------------------------------------------------------------------------------
-- Many requests
-----------------------------------------------------------------------------------------

namespace Database

/-- Requests emit what each of them emits on the database to which it comes, by induction on
them.
-/
theorem emitted_after (d : Database) (requests : List Request)
    : (d.after requests).emitted = d.emitted ++ d.emits requests := by
  have extends_ : ∃ new, (d.after requests).emitted = d.emitted ++ new := by
    induction requests generalizing d with
    | nil => exact ⟨[], (List.append_nil _).symm⟩
    | cons r rest ih =>
        obtain ⟨new, emitted⟩ := ih (r.after d)
        rw [r.emitted_after, List.append_assoc] at emitted
        exact ⟨_, emitted⟩
  obtain ⟨new, emitted⟩ := extends_
  rw [emits, emitted, List.drop_left]

theorem emits_cons (d : Database) (r : Request) (rest : List Request)
    : d.emits (r :: rest) = r.emits d ++ (r.after d).emits rest := by
  rw [emits, after, emitted_after, r.emitted_after, List.append_assoc, List.drop_left, r.emits_eq]

/-- The completions that requests announce are the rows that they append to the log, by induction on
the requests.
-/
theorem mentions_emits (d : Database) {requests : List Request}
    (single : ∀ calls commit, .transact calls commit ∉ requests)
    : (d.emits requests).filterMap (fun e => e.event.mention?)
        = (d.appends requests).map fun (number, row) => row.mention number := by
  induction requests generalizing d with
  | nil => simp [emits, after, appends]
  | cons r rest ih =>
      have later := ih (r.after d) fun calls commit member =>
        single calls commit (List.mem_cons_of_mem _ member)
      have own := r.mentions_events d fun calls commit same =>
        single calls commit (same ▸ List.mem_cons_self ..)
      rw [emits_cons, appends, List.filterMap_append, List.map_append, later, r.emits_eq,
        List.filterMap_map, ← own]
      rfl

/-- Every envelope that requests emit agrees with its event, by induction on the requests. -/
theorem agrees_of_mem_emits (d : Database) (requests : List Request)
    : ∀ e ∈ d.emits requests, e.Agrees := by
  induction requests generalizing d with
  | nil => simp [emits, after]
  | cons r rest ih =>
      rw [emits_cons, List.forall_mem_append]
      refine ⟨?_, ih (r.after d)⟩
      rw [r.emits_eq]
      intro e member
      obtain ⟨event, -, rfl⟩ := List.mem_map.mp member
      exact Envelope.agrees_enclose d.clock event

end Database

namespace Retention

variable {d : Database} {p : Policy} {today : Date} {keys : List Int}

/-- What a look at the store answers is what the work yields on it. -/
theorem yields_of_ask {α : Type} {work : Work α} {value : α} (h : d.ask work = .ok value)
    : ∃ after, d.store.Yields work value after := by
  rw [Database.ask] at h
  split at h
  · exact ⟨_, Prod.ext h rfl⟩
  · cases h

/-- The requests that are due stand in ascending order. -/
theorem ascending_dueRequests (h : d.ask (dueRequests p today) = .ok keys)
    : keys.Pairwise (· < ·) := by
  obtain ⟨after, yields⟩ := yields_of_ask h
  simp only [dueRequests, Store.yields_bind_iff, Store.yields_pure_iff] at yields
  obtain ⟨_, _, -, _, _, -, rfl, -⟩ := yields
  exact Table.ascending_keys _

/-- The pets that are due stand in ascending order. -/
theorem ascending_duePets (h : d.ask (duePets p today) = .ok keys) : keys.Pairwise (· < ·) := by
  obtain ⟨after, yields⟩ := yields_of_ask h
  simp only [duePets, Store.yields_bind_iff, Store.yields_pure_iff] at yields
  obtain ⟨_, _, -, _, _, -, _, _, -, rfl, -⟩ := yields
  exact Table.ascending_keys _

end Retention

/-- A request archives the due records of a kind one after another, in ascending order, and announces
what becomes of each. If the due records cannot be told, it does nothing.
-/
def Request.ArchivesEach (archiving : Request) (d : Database) (kind : Kind) (actor : Option Int)
    (reason : String) (due : Except Fault (List Int)) : Prop :=
  match due with
  | .ok keys =>
      let ts := Retention.archivals kind actor reason keys
      keys.Pairwise (· < ·)
      ∧ archiving.after d = d.after (ts.map .transition)
      ∧ d.Announces ts (archiving.emits d)
  | .error _ => archiving.after d = d ∧ archiving.emits d = []

theorem Request.ArchivesEach.of_archivals {archiving : Request} {d : Database} {kind : Kind}
    {actor : Option Int} {reason : String} {due : Except Fault (List Int)}
    (after : archiving.after d
      = d.after ((Retention.archivalsOfDue kind actor reason due).map .transition))
    (emits : archiving.emits d
      = (d.told (Retention.archivalsOfDue kind actor reason due)).map (.enclose d.clock))
    (ascending : ∀ keys, due = .ok keys → keys.Pairwise (· < ·))
    : archiving.ArchivesEach d kind actor reason due := by
  cases due with
  | error fault => exact ⟨after, emits⟩
  | ok keys =>
      refine ⟨ascending keys rfl, after, ?_⟩
      rw [emits]
      exact d.announces_told _

namespace Database

/-- A retention run emits what its two parts emit and then its report, in which as many records are
archived as completions were announced.
-/
theorem emits_retain (d : Database) (actor : Option Int)
    : let requests := Request.archiveRequests d.clock.date actor
      let pets := Request.archivePets d.clock.date actor
      let report := ((Retention.run actor).run d).1
      let emitted := (Request.retain actor).emits d
      (∃ last, emitted = requests.emits d ++ pets.emits (requests.after d) ++ [last]
        ∧ last.occurred = d.clock ∧ last.event = .retentionCompleted report)
      ∧ report.requestsArchived + report.petsArchived
        = (emitted.filterMap fun e => e.event.mention?).length := by
  intro requests pets report emitted
  have clock : (requests.after d).clock = d.clock := by
    rw [Request.after_archiveRequests, (d.after_transitions _).2]
  obtain ⟨-, requestCount, petCount⟩ := Request.run_retain d actor
  have emits : emitted = requests.emits d ++ pets.emits (requests.after d)
      ++ [.enclose d.clock (.retentionCompleted report)] := by
    rw [requests.emits_eq, pets.emits_eq, clock]
    refine ((Request.retain actor).emits_eq d).trans ?_
    simp only [Request.events, List.map_append, List.map_cons, List.map_nil]
    rfl
  have first := d.length_mentions_told (d.requestArchivals d.clock.date actor)
  have second := (requests.after d).length_mentions_told
    ((requests.after d).petArchivals d.clock.date actor)
  refine ⟨⟨_, emits, rfl, rfl⟩, ?_⟩
  rw [requestCount, petCount, ← first, ← second, emits, requests.emits_eq, pets.emits_eq]
  simp only [List.filterMap_append, List.length_append, List.filterMap_map]
  rfl

/-- What is announced mirrors what is done and what is logged, on any database. A transition, the
deletion of a user included, emits one envelope, which tells of its completion, or else of its rejection
with the outcome in words. The archiving of what is due makes one transition for each of the due records
in ascending order, and announces each of them so; if the due records cannot be told it emits nothing. A
retention run emits the envelopes of its two parts and then its report, in which as many records are
archived as completions were announced. No other request announces a transition. So in a run without
transactions the completions that are announced are, in order, the rows that are appended to the log.
The topic and the actor of every envelope agree with its event.
-/
theorem announcements_mirror (d : Database)
    : (∀ t, ∃ e, (Request.transition t).emits d = [e]
          ∧ e.TellsOf t ((transition t).run d).1 d.clock)
      ∧ (∀ user, ∃ e, (Request.deleteUser user).emits d = [e]
          ∧ e.TellsOf ⟨.archive, .user, user, none, "User deleted via admin dashboard"⟩
            ((deleteUser user).run d).1 d.clock)
      ∧ (∀ today actor, (Request.archiveRequests today actor).ArchivesEach d .adoptionRequest actor
          d.policy.requestReason (d.ask (Retention.dueRequests d.policy today)))
      ∧ (∀ today actor, (Request.archivePets today actor).ArchivesEach d .pet actor
          d.policy.petReason (d.ask (Retention.duePets d.policy today)))
      ∧ (∀ actor,
          let requests := Request.archiveRequests d.clock.date actor
          let pets := Request.archivePets d.clock.date actor
          let report := ((Retention.run actor).run d).1
          let emitted := (Request.retain actor).emits d
          (∃ last, emitted = requests.emits d ++ pets.emits (requests.after d) ++ [last]
            ∧ last.occurred = d.clock ∧ last.event = .retentionCompleted report)
          ∧ report.requestsArchived + report.petsArchived
            = (emitted.filterMap fun e => e.event.mention?).length)
      ∧ (∀ r, ¬ Request.AsksForTransitions r → ∀ e ∈ r.emits d,
          ∃ kind username, e.event = .profileFlagged kind username)
      ∧ (∀ requests, (∀ calls commit, .transact calls commit ∉ requests) →
          (d.emits requests).filterMap (fun e => e.event.mention?)
            = (d.appends requests).map fun (number, row) => row.mention number)
      ∧ ∀ requests, ∀ e ∈ d.emits requests, e.Agrees := by
  refine ⟨?_, ?_, ?_, ?_, d.emits_retain, ?_, fun _ => d.mentions_emits, d.agrees_of_mem_emits⟩
  · intro t
    exact ⟨_, (Request.transition t).emits_eq d, .enclose d.clock t _⟩
  · intro user
    exact ⟨_, (Request.deleteUser user).emits_eq d, .enclose d.clock (deletion user) _⟩
  · intro today actor
    exact .of_archivals (Request.after_archiveRequests d today actor)
      (Request.emits_eq _ d) fun _ => Retention.ascending_dueRequests
  · intro today actor
    exact .of_archivals (Request.after_archivePets d today actor)
      (Request.emits_eq _ d) fun _ => Retention.ascending_duePets
  · intro r silent e member
    rw [r.emits_eq] at member
    obtain ⟨event, told, rfl⟩ := List.mem_map.mp member
    cases r with
    | updateUser u =>
        rw [Request.events] at told
        split at told
        · obtain ⟨profile, -, rfl⟩ := List.mem_map.mp told
          exact ⟨_, _, rfl⟩
        · cases told
    | transition | deleteUser | archiveRequests | archivePets | retain =>
        exact (silent trivial).elim
    | _ => cases told

/-- An adopter is archived, which cannot be done twice, and a retention run archives an approved
request: three transitions and a report are announced, and the two completions are in the log.
-/
theorem announcements_mirror_of_request
    : let requests : List Request := [
        .create .adopter (AdopterContent.ofName "Bob"),
        .create .adoptionRequest (AdoptionRequestContent.approvedFor 1 1),
        .transition ⟨.archive, .adopter, 1, some 7, "moved away"⟩,
        .transition ⟨.archive, .adopter, 1, some 7, "moved away"⟩,
        .retain none]
      let d := fresh .epoch
      (d.emits requests).map Envelope.topic
        = ["archive.completed", "archive.rejected", "archive.completed", "retention.completed"]
      ∧ (d.emits requests).map Envelope.event
        = [.transitionCompleted .adopter 1 .archive (some 7) 1,
          .transitionRejected .adopter 1 .archive (some 7) "record not found",
          .transitionCompleted .adoptionRequest 1 .archive none 2, .retentionCompleted ⟨1, 0, 0⟩]
      ∧ (d.appends requests).map Prod.fst = [1, 2]
      ∧ (d.emits requests).filterMap (fun e => e.event.mention?)
        = (d.appends requests).map fun (number, row) => row.mention number := by
  intro requests d
  have single : ∀ calls commit, .transact calls commit ∉ requests := by
    simp [requests]
  exact ⟨by decide +kernel, by decide +kernel, by decide +kernel,
    (announcements_mirror d).2.2.2.2.2.2.1 requests single⟩

end Database

end AdoptionRecords
