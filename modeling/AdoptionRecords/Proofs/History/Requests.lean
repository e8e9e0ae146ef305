import AdoptionRecords.Retention.Run
import AdoptionRecords.Proofs.Store.Transactions

/-! What can be asked of a database, and the deeds that answer it. Each request is a run of changes
of the store, at one instant; a list of requests is followed from one database to the next.
-/

namespace AdoptionRecords

open Calendar

/-- Calls one after another go on with the database that the first left. -/
theorem Session.run_bind {α β : Type} (d : Database) (first : Session α) (second : α → Session β)
    : (first >>= second).run d = (second (first.run d).1).run (first.run d).2 :=
  -- In brackets, so that this is always rewritten with and never unfolded by the kernel.
  (rfl)

theorem Session.run_pure {α : Type} (d : Database) (value : α)
    : (pure value : Session α).run d = (value, d) :=
  (rfl)

theorem Session.run_get (d : Database) : (get : Session Database).run d = (d, d) :=
  (rfl)

/-- What is asked of a database: a row created under the next key of its table, a call of the
library, or other surroundings for the calls to come.
-/
inductive Request
  | create (kind : Kind) (content : Content kind)
  | transition (t : Transition)
  | deleteUser (user : Int)
  | flagPet (pet : Int)
  | unflagPet (pet : Int)
  | updateUser (u : UserUpdate)
  | archiveRequests (today : Date) (actor : Option Int)
  | archivePets (today : Date) (actor : Option Int)
  | retain (actor : Option Int)
  | cleanUpLog (days : Int)
  | pruneLog (cutoff : Instant)
  | transact (calls : List Call) (commit : Bool)
  | migrate
  | surroundings (clock : Instant) (policy : Retention.Policy) (reachable : Bool)

/-- The deed that a transition's outcome tells of. -/
def Outcome.deeds (t : Transition) : Outcome → List Deed
  | completed entry => [.transition t entry]
  | _ => []

namespace Retention

/-- The deeds of archiving records one after another. -/
def deedsOfEach (kind : Kind) (actor : Option Int) (reason : String)
    : List Int → Database → List Deed
  | [], _ => []
  | key :: rest, d =>
      let t : Transition := { operation := .archive, kind, key, actor, reason }
      let (outcome, next) := (Database.transition t).run d
      outcome.deeds t ++ deedsOfEach kind actor reason rest next

/-- The deeds of archiving the records that are due. -/
def deedsOfDue (kind : Kind) (actor : Option Int) (reason : String)
    (due : Except Fault (List Int)) (d : Database) : List Deed :=
  match due with
  | .ok keys => deedsOfEach kind actor reason keys d
  | .error _ => []

/-- The deeds of archiving the requests that are due. -/
def deedsOfRequests (today : Date) (actor : Option Int) (d : Database) : List Deed :=
  deedsOfDue .adoptionRequest actor d.policy.requestReason (d.ask (dueRequests d.policy today)) d

/-- The deeds of archiving the pets that are due. -/
def deedsOfPets (today : Date) (actor : Option Int) (d : Database) : List Deed :=
  deedsOfDue .pet actor d.policy.petReason (d.ask (duePets d.policy today)) d

end Retention

namespace Request

/-- The calls by which a request is met. -/
def session : Request → Session Unit
  | create kind content => do
      let _ ← Database.perform fun _ => Work.createLive kind content
  | transition t => do let _ ← Database.transition t
  | deleteUser user => do let _ ← Database.deleteUser user
  | flagPet pet => do let _ ← Database.flagPet pet
  | unflagPet pet => do let _ ← Database.unflagPet pet
  | updateUser u => do let _ ← Database.updateUser u
  | archiveRequests today actor => do let _ ← Retention.archiveRequests today actor
  | archivePets today actor => do let _ ← Retention.archivePets today actor
  | retain actor => do let _ ← Retention.run actor
  | cleanUpLog days => do let _ ← Database.cleanUpLog days
  | pruneLog cutoff => do let _ ← Database.pruneLog cutoff
  | transact calls commit => do let _ ← Database.transact calls commit
  | migrate => do let _ ← Database.migrate
  | surroundings clock policy reachable =>
      modify fun d => { d with clock, policy, reachable }

/-- The database after a request. -/
def after (r : Request) (d : Database) : Database :=
  (r.session.run d).2

/-- The deeds that a request is answered to have done, whether they last or not. -/
def answered (r : Request) (d : Database) : List Deed :=
  match r with
  | create kind content =>
      match ((Database.perform fun _ => Work.createLive kind content).run d).1 with
      | .ok key => [.creation kind key]
      | .error _ => []
  | transition t => ((Database.transition t).run d).1.deeds t
  | deleteUser user => ((Database.deleteUser user).run d).1.deeds (Database.deletion user)
  | updateUser u =>
      match ((Database.updateUser u).run d).1 with
      -- The answer tells the kind of the new profile; its key is the next one of the table.
      | .ok (.changed _ _ _ (some kind)) => [.creation kind (d.store.sequences.live kind)]
      | _ => []
  | archiveRequests today actor => Retention.deedsOfRequests today actor d
  | archivePets today actor => Retention.deedsOfPets today actor d
  | retain actor =>
      Retention.deedsOfRequests d.clock.date actor d
        ++ Retention.deedsOfPets d.clock.date actor
          ((Retention.archiveRequests d.clock.date actor).run d).2
  | transact calls commit =>
      match ((Database.transact calls commit).run d).1 with
      | .ok answers => Call.deedsOf calls answers
      | .error _ => []
  | flagPet _ | unflagPet _ | cleanUpLog _ | pruneLog _ | migrate | surroundings .. => []

/-- Whether what a request does is kept: only a transaction is ever undone as a whole. -/
def isKept (r : Request) (d : Database) : Bool :=
  match r with
  | transact calls commit =>
      commit && !((Transaction.start d.store).calls d.now calls).2.spoiled
  | _ => true

/-- The deeds of a request that last. -/
def deeds (r : Request) (d : Database) : List Deed :=
  if r.isKept d then r.answered d else []

/-- The changes of a store that a request can cause. -/
def Causes (r : Request) (d : Database) (s : Store) (c : Change) : Prop :=
  match r with
  | create kind content => s = d.store ∧ ∃ key, c = .create kind content key
  | transition t => ∃ entry, c = .transition t entry
  | deleteUser user => ∃ entry, c = .transition (Database.deletion user) entry
  | flagPet pet => c = .amend .pet (.flag fun key _ => key == pet)
  | unflagPet pet => c = .amend .pet (.unflag fun key _ => key == pet)
  | updateUser _ => c.IsOfUpdate
  | archiveRequests .. | archivePets .. => c.Archives
  | retain _ => c.Archives ∨ ∃ keep, c = .prune keep
  | cleanUpLog _ | pruneLog _ => ∃ keep, c = .prune keep
  | transact calls _ => c.IsOfCalls calls
  | migrate => ∃ ledger, c = .complete ledger
  | surroundings .. => False

end Request

namespace Database

open Store

variable {d : Database} {may : Store → Change → Prop}

theorem store_announce (d : Database) (event : Event)
    : ((announce event).run d).2.store = d.store :=
  (rfl)

/-- A unit of work changes nothing of a database but its store. -/
theorem perform_eq {α : Type} (d : Database) (work : Instant → Work α)
    : ((perform work).run d).2 = { d with store := ((perform work).run d).2.store } := by
  rw [run_perform]
  split <;> rfl

/-- A unit of work on a database is a run if it is one on the store. -/
theorem runs_perform {α : Type} {work : Instant → Work α} (deedsOf : Except Fault α → List Deed)
    (yields : ∀ value after, d.store.Yields (work d.now) value after →
      Runs d.now may d.store (deedsOf (.ok value)) after)
    (stops : ∀ fault after, d.store.Stops (work d.now) fault after →
      d.store.sequences ≤ after.sequences)
    (undone : ∀ fault, deedsOf (.error fault) = [])
    : Runs d.now may d.store (deedsOf ((perform work).run d).1) ((perform work).run d).2.store := by
  rw [run_perform]
  by_cases reachable : d.reachable = true
  · rw [if_pos reachable]
    exact .of_perform deedsOf yields stops undone
  · rw [if_neg reachable]
    show Runs d.now may d.store (deedsOf (.error _)) d.store
    rw [undone]
    exact .refl _

/-- A unit of work without deeds that writes last is a run without deeds. -/
theorem runs_silent_perform {α : Type} {work : Instant → Work α}
    (last : (work d.now).WritesLast)
    (yields : ∀ value after, d.store.Yields (work d.now) value after →
      Runs d.now may d.store [] after)
    : Runs d.now may d.store [] ((perform work).run d).2.store :=
  runs_perform (fun _ => []) yields (fun _ _ h => (last.stops h).sequences) fun _ => rfl

/-- The outcome of a unit of work tells of its deed. -/
theorem deeds_ofResult (t : Transition) (result : Except Fault LogEntry)
    : (Outcome.ofResult result).deeds t =
      match result with
      | .ok entry => [.transition t entry]
      | .error _ => [] := by
  cases result with
  | ok entry => rfl
  | error fault => cases h : fault.category <;> simp [Outcome.ofResult, h, Outcome.deeds]

theorem outcome_transition (d : Database) (t : Transition)
    : ((transition t).run d).1 = Outcome.ofResult ((perform t.carryOut).run d).1 :=
  rfl

/-- A transition changes nothing of a database but its store and what was announced. -/
theorem transition_eq (d : Database) (t : Transition)
    : ((transition t).run d).2 =
      { d with
        store := ((perform t.carryOut).run d).2.store
        emitted := ((transition t).run d).2.emitted } := by
  rw [run_transition, run_perform]
  by_cases reachable : d.reachable = true <;> simp [reachable]

theorem now_transition (d : Database) (t : Transition) : ((transition t).run d).2.now = d.now := by
  rw [transition_eq]
  rfl

theorem reachable_transition (d : Database) (t : Transition)
    : ((transition t).run d).2.reachable = d.reachable := by
  rw [transition_eq]

/-- A transition that is carried out by itself is completed. -/
theorem run_transition_of_yields {t : Transition} {entry : LogEntry} {after : Store}
    (reachable : d.reachable = true)
    (h : d.store.Yields (t.carryOut d.now) entry after)
    : ((transition t).run d).1 = .completed entry ∧ ((transition t).run d).2.store = after := by
  rw [outcome_transition, transition_eq, run_perform, if_pos reachable, h.perform_eq]
  exact ⟨rfl, rfl⟩

/-- A transition that stops by itself is undone; at most it has drawn a number. -/
theorem run_transition_of_stops {t : Transition} {fault : Fault} {after : Store}
    (reachable : d.reachable = true)
    (h : d.store.Stops (t.carryOut d.now) fault after)
    : ((transition t).run d).1 = Outcome.ofResult (.error fault)
      ∧ ((transition t).run d).2.store = { d.store with sequences := after.sequences } := by
  rw [outcome_transition, transition_eq, run_perform, if_pos reachable, h.perform_eq]
  exact ⟨rfl, rfl⟩

/-- A transition that is completed was carried out. -/
theorem yields_of_completed {t : Transition} {entry : LogEntry}
    (h : ((transition t).run d).1 = .completed entry)
    : d.store.Yields (t.carryOut d.now) entry ((transition t).run d).2.store := by
  by_cases reachable : d.reachable = true
  · rcases d.store.yields_or_stops (t.carryOut d.now) with ⟨found, after, run⟩ | ⟨fault, after, run⟩
    · obtain ⟨outcome, store⟩ := run_transition_of_yields reachable run
      rw [outcome] at h
      cases h
      rwa [store]
    · rw [(run_transition_of_stops reachable run).1] at h
      cases category : fault.category <;> simp [Outcome.ofResult, category] at h
  · rw [outcome_transition, run_perform, if_neg reachable] at h
    cases h

/-- A transition is a run with the deed that its outcome tells of. -/
theorem runs_transition (d : Database) (t : Transition)
    : Runs d.now (fun _ c => ∃ entry, c = .transition t entry) d.store
        (((transition t).run d).1.deeds t) ((transition t).run d).2.store := by
  rw [outcome_transition, transition_eq]
  refine runs_perform (fun result => (Outcome.ofResult result).deeds t) ?_ ?_ ?_
  · intro entry after h
    exact h.runs_carryOut
  · intro fault after h
    rcases h.of_carryOut with ⟨-, drawn⟩ | kept
    · exact drawn
    · exact kept.sequences
  · intro fault
    exact deeds_ofResult t (.error fault)

/-- What an update of a user does to a database: its unit of work, then perhaps an envelope. -/
theorem run_updateUser (d : Database) (u : UserUpdate)
    : ((updateUser u).run d).1 =
        ((perform u.carryOut).run d).1.map (fun (_, role, plan) => .ofPlan role u.role plan)
      ∧ ((updateUser u).run d).2 =
        { d with
          store := ((perform u.carryOut).run d).2.store
          emitted := ((updateUser u).run d).2.emitted } := by
  have unit := perform_eq d u.carryOut
  simp only [updateUser, Session.run_bind]
  rcases h : (perform u.carryOut).run d with ⟨result, after⟩
  rw [h] at unit
  obtain ⟨store, clock, reachable, policy, emitted⟩ := after
  simp only [Database.mk.injEq, true_and] at unit
  obtain ⟨rfl, rfl, rfl, rfl⟩ := unit
  cases result with
  | error fault => exact ⟨rfl, rfl⟩
  | ok found =>
      obtain ⟨oldName, role, plan⟩ := found
      dsimp only
      cases plan.flagOld <;> exact ⟨rfl, rfl⟩

/-- An update of a user is a run with the creation that its answer tells of. -/
theorem runs_updateUser (d : Database) (u : UserUpdate)
    : Runs d.now (fun _ c => c.IsOfUpdate) d.store ((Request.updateUser u).answered d)
        ((updateUser u).run d).2.store := by
  obtain ⟨answer, same⟩ := run_updateUser d u
  rw [same]
  simp only [Request.answered, answer]
  refine runs_perform (fun result =>
    match result.map fun (found : String × Role × ProfilePlan) =>
      RoleChange.ofPlan found.2.1 u.role found.2.2 with
    | .ok (.changed _ _ _ (some kind)) => [.creation kind (d.store.sequences.live kind)]
    | _ => []) ?_ ?_ ?_
  · intro found after h
    obtain ⟨oldName, role, plan⟩ := found
    obtain ⟨rfl, run⟩ := h.runs_update
    by_cases kept : role = u.role
    · simpa [Except.map, RoleChange.ofPlan, ProfilePlan.ofRoles, kept] using run
    · cases created : u.role.profile? with
      | none => simpa [Except.map, RoleChange.ofPlan, ProfilePlan.ofRoles, kept, created] using run
      | some profile =>
          simpa [Except.map, RoleChange.ofPlan, ProfilePlan.ofRoles, kept, created] using run
  · intro fault after h
    exact h.sequences_of_update
  · intro fault
    rfl

/-- Archiving records one after another is a run with the deeds of their transitions, by induction
on the records; the clock stands still.
-/
theorem runs_archiveEach (kind : Kind) (actor : Option Int) (reason : String) (keys : List Int)
    (d : Database)
    : Runs d.now (fun _ c => c.Archives) d.store
        (Retention.deedsOfEach kind actor reason keys d)
        ((Retention.archiveEach kind actor reason keys).run d).2.store
      ∧ ((Retention.archiveEach kind actor reason keys).run d).2.clock = d.clock := by
  induction keys generalizing d with
  | nil => exact ⟨.refl _, rfl⟩
  | cons key rest ih =>
      have head := runs_transition d { operation := .archive, kind, key, actor, reason }
      have clock : ((transition { operation := .archive, kind, key, actor, reason }).run d).2.clock
          = d.clock := by
        rw [transition_eq]
      obtain ⟨tail, clock'⟩ := ih
        ((transition { operation := .archive, kind, key, actor, reason }).run d).2
      simp only [now, clock] at tail
      simp only [Retention.archiveEach, Session.run_bind]
      refine ⟨(head.mono ?_).trans tail, clock'.trans clock⟩
      intro _ _ caused
      obtain ⟨entry, rfl⟩ := caused
      rfl

/-- Archiving what is due is a run with the deeds of the transitions; the clock stands still. -/
theorem runs_archiveDue (kind : Kind) (actor : Option Int) (reason : String)
    (due : Except Fault (List Int)) (d : Database)
    : Runs d.now (fun _ c => c.Archives) d.store
        (Retention.deedsOfDue kind actor reason due d)
        ((Retention.archiveDue kind actor reason due).run d).2.store
      ∧ ((Retention.archiveDue kind actor reason due).run d).2.clock = d.clock := by
  cases due with
  | ok keys => exact runs_archiveEach kind actor reason keys d
  | error fault => exact ⟨.refl _, rfl⟩

/-- Archiving the requests that are due is a run; the clock stands still. -/
theorem runs_archiveRequests (d : Database) (today : Date) (actor : Option Int)
    : Runs d.now (fun _ c => c.Archives) d.store
        (Retention.deedsOfRequests today actor d)
        ((Retention.archiveRequests today actor).run d).2.store
      ∧ ((Retention.archiveRequests today actor).run d).2.clock = d.clock := by
  rw [Retention.archiveRequests, Session.run_bind, Session.run_get, Retention.deedsOfRequests]
  exact runs_archiveDue ..

/-- Archiving the pets that are due is a run; the clock stands still. -/
theorem runs_archivePets (d : Database) (today : Date) (actor : Option Int)
    : Runs d.now (fun _ c => c.Archives) d.store
        (Retention.deedsOfPets today actor d)
        ((Retention.archivePets today actor).run d).2.store
      ∧ ((Retention.archivePets today actor).run d).2.clock = d.clock := by
  rw [Retention.archivePets, Session.run_bind, Session.run_get, Retention.deedsOfPets]
  exact runs_archiveDue ..

/-- Removing old log entries is a run without deeds. -/
theorem runs_pruneLog (d : Database) (cutoff : Instant)
    : Runs d.now (fun _ c => ∃ keep, c = .prune keep) d.store []
        ((pruneLog cutoff).run d).2.store :=
  runs_silent_perform (Work.writesLast_prune cutoff) fun _ _ h => h.runs_prune

/-- Cleaning the log up is a run without deeds. -/
theorem runs_cleanUpLog (d : Database) (days : Int)
    : Runs d.now (fun _ c => ∃ keep, c = .prune keep) d.store []
        ((cleanUpLog days).run d).2.store := by
  simp only [cleanUpLog, Session.run_bind, Session.run_get]
  cases d.clock.daysBefore? days with
  | none => exact .refl _
  | some cutoff =>
      dsimp only
      rw [Session.run_bind]
      cases ((pruneLog cutoff).run d).1 <;> exact runs_pruneLog d cutoff

/-- A retention run archives the requests and the pets that are due, then cleans the log up, all of
it now.
-/
theorem runs_retention (d : Database) (actor : Option Int)
    : Runs d.now (fun _ c => c.Archives ∨ ∃ keep, c = .prune keep) d.store
        (Retention.deedsOfRequests d.clock.date actor d
          ++ Retention.deedsOfPets d.clock.date actor
            ((Retention.archiveRequests d.clock.date actor).run d).2)
        ((Retention.run actor).run d).2.store := by
  simp only [Retention.run, Session.run_bind, Session.run_get, Session.run_pure, store_announce]
  obtain ⟨first, clock⟩ := runs_archiveRequests d d.clock.date actor
  generalize ((Retention.archiveRequests d.clock.date actor).run d).2 = requests at *
  obtain ⟨second, clock'⟩ := runs_archivePets requests d.clock.date actor
  generalize ((Retention.archivePets d.clock.date actor).run requests).2 = pets at *
  have third := runs_cleanUpLog pets d.policy.logKeepDays
  simp only [now, clock, clock'] at second third
  refine Runs.trans_silent ((first.trans second).mono ?_) (third.mono ?_)
  · exact fun _ _ caused => .inl caused
  · exact fun _ _ caused => .inr caused

/-- What a transaction does to a database: it makes its calls on the store if that can be
reached.
-/
theorem run_transact (d : Database) (calls : List Call) (commit : Bool)
    : (transact calls commit).run d =
      if d.reachable then
        (.ok (d.store.transact d.now calls commit).1,
          { d with store := (d.store.transact d.now calls commit).2 })
      else (.error (.database .unreachable), d) := by
  by_cases h : d.reachable = true <;> simp [transact, h] <;> rfl

/-- The calls of a transaction are a run with the deeds of their answers. If the transaction is
kept, they lead to the store after it; otherwise that has the tables that it had before.
-/
theorem runs_transact (d : Database) (calls : List Call) (commit : Bool)
    : ∃ reached,
        Runs d.now (fun _ c => c.IsOfCalls calls) d.store
          ((Request.transact calls commit).answered d) reached
        ∧ ((Request.transact calls commit).isKept d = true →
            ((transact calls commit).run d).2.store = reached)
        ∧ ((Request.transact calls commit).isKept d = false →
            ((transact calls commit).run d).2.store.tables = d.store.tables)
        ∧ d.store.sequences ≤ ((transact calls commit).run d).2.store.sequences := by
  simp only [Request.answered, Request.isKept, run_transact]
  by_cases reachable : d.reachable = true
  · obtain ⟨reached, run, same, -⟩ := Transaction.runs_calls (t := .start d.store) d.now
      calls rfl fun _ member => member
    have drawn := Transaction.sequences_le_finish d.store d.now calls commit
    simp only [if_pos reachable]
    refine ⟨reached, run, ?_, ?_, drawn⟩
    · intro kept
      have sound := (Bool.and_eq_true_iff.mp kept).2
      rw [same (by simpa using sound)]
      simp only [Store.transact, Transaction.finish, if_pos kept]
    · intro undone
      simp only [Store.transact, Transaction.finish, undone, Bool.false_eq_true, if_false]
  · simp only [if_neg reachable]
    exact ⟨d.store, .refl _, fun _ => rfl, fun _ => trivial, le_rfl⟩

/-- Applying the schema is a run without deeds. -/
theorem runs_migrate (d : Database)
    : Runs d.now (fun _ c => ∃ ledger, c = .complete ledger) d.store []
        ((migrate).run d).2.store := by
  have applied : Runs d.now (fun _ c => ∃ ledger, c = .complete ledger) d.store []
      ((perform Schema.apply).run d).2.store :=
    runs_silent_perform (Work.writesLast_schema d.now) fun _ _ h => h.runs_schema
  simp only [migrate, Session.run_bind]
  rcases ((perform Schema.apply).run d).1 with fault | done
  · cases fault <;> exact applied
  · exact applied

end Database

namespace Request

open Store Database

/-- A request of any kind but a transaction keeps what it does. -/
theorem deeds_of_kept {r : Request} {d : Database} (h : r.isKept d = true)
    : r.deeds d = r.answered d := by
  rw [deeds, if_pos h]

/-- Every request is a run: the changes that it can cause lead to the store after it, and leave the
deeds that last.
-/
theorem runs (r : Request) (d : Database)
    : Runs d.now (r.Causes d) d.store (r.deeds d) (r.after d).store := by
  cases r with
  | create kind content =>
      refine runs_perform (fun result =>
        match result with
        | .ok key => [.creation kind key]
        | .error _ => []) ?_ ?_ ?_
      · intro key after h
        exact h.runs_createLive
      · intro fault after h
        exact ((Work.writesLast_createLive ..).stops h).sequences
      · intro fault
        rfl
  | transition t => exact runs_transition d t
  | deleteUser user => exact runs_transition d (deletion user)
  | flagPet pet =>
      exact runs_silent_perform (Work.writesLast_turn ..) fun _ _ h => h.runs_setPet
  | unflagPet pet =>
      show Runs d.now _ d.store [] ((perform fun _ => Flag.clearPet pet).run d).2.store
      exact runs_silent_perform (Work.writesLast_turn ..) fun _ _ h => h.runs_clearPet
  | updateUser u => exact runs_updateUser d u
  | archiveRequests today actor => exact (runs_archiveRequests d today actor).1
  | archivePets today actor => exact (runs_archivePets d today actor).1
  | retain actor => exact runs_retention d actor
  | cleanUpLog days => exact runs_cleanUpLog d days
  | pruneLog cutoff => exact runs_pruneLog d cutoff
  | transact calls commit =>
      obtain ⟨reached, run, kept, undone, drawn⟩ := runs_transact d calls commit
      cases h : (transact calls commit).isKept d with
      | true =>
          rw [deeds_of_kept h]
          rw [← kept h] at run
          exact run
      | false =>
          -- The calls may have reached another store, but it is thrown away with their deeds.
          rw [deeds, h]
          exact .stay (undone h) drawn
  | migrate => exact runs_migrate d
  | surroundings clock policy reachable => exact .refl _

/-- What a request is answered to have done is a run as well, also if it does not last. -/
theorem runs_answered (r : Request) (d : Database)
    : ∃ reached, Runs d.now (r.Causes d) d.store (r.answered d) reached := by
  cases kept : r.isKept d with
  | true =>
      rw [← deeds_of_kept kept]
      exact ⟨_, r.runs d⟩
  | false =>
      cases r with
      | transact calls commit =>
          obtain ⟨reached, run, -⟩ := runs_transact d calls commit
          exact ⟨reached, run⟩
      | _ => simp [isKept] at kept

end Request

namespace Database

open Store

/-- The database after requests. -/
def after (d : Database) : List Request → Database
  | [] => d
  | r :: rest => (r.after d).after rest

/-- The outcomes of transitions that are asked for one after another. -/
def outcomes (d : Database) : List Transition → List Outcome
  | [] => []
  | t :: rest =>
      ((transition t).run d).1 :: ((transition t).run d).2.outcomes rest

/-- The deeds of requests that last, in order. -/
def deeds (d : Database) : List Request → List Deed
  | [] => []
  | r :: rest => r.deeds d ++ (r.after d).deeds rest

/-- A deed of requests was done by one of them, on the database that those before it left; by
induction on the requests.
-/
theorem exists_of_mem_deeds {d : Database} {requests : List Request} {deed : Deed}
    (h : deed ∈ d.deeds requests)
    : ∃ first r last, requests = first ++ r :: last ∧ deed ∈ r.deeds (d.after first) := by
  induction requests generalizing d with
  | nil => cases h
  | cons r rest ih =>
      rcases List.mem_append.mp h with own | later
      · exact ⟨[], r, rest, rfl, own⟩
      · obtain ⟨first, other, last, split, member⟩ := ih later
        exact ⟨r :: first, other, last, by rw [split]; rfl, member⟩

theorem after_append (d : Database) (first second : List Request)
    : d.after (first ++ second) = (d.after first).after second := by
  induction first generalizing d with
  | nil => rfl
  | cons r rest ih => exact ih _

theorem deeds_append (d : Database) (first second : List Request)
    : d.deeds (first ++ second) = d.deeds first ++ (d.after first).deeds second := by
  induction first generalizing d with
  | nil => rfl
  | cons r rest ih => simp only [List.cons_append, deeds, after, ih, List.append_assoc]

/-- (d.Throughout holds requests) holds if each of the requests, with the database to which it
comes, has the given property.
-/
def Throughout (holds : Database → Request → Prop) (d : Database) : List Request → Prop
  | [] => True
  | r :: rest => holds d r ∧ (r.after d).Throughout holds rest

/-- What holds of every request, whatever database it comes to, holds throughout. -/
theorem Throughout.of_forall {holds : Database → Request → Prop} {requests : List Request}
    (h : ∀ r ∈ requests, ∀ d, holds d r) (d : Database)
    : d.Throughout holds requests := by
  induction requests generalizing d with
  | nil => trivial
  | cons r rest ih =>
      obtain ⟨head, tail⟩ := List.forall_mem_cons.mp h
      exact ⟨head d, ih tail (r.after d)⟩

/-- What holds throughout requests holds throughout the first of them, by induction on these. -/
theorem Throughout.left {holds : Database → Request → Prop} {d : Database}
    {first second : List Request} (h : d.Throughout holds (first ++ second))
    : d.Throughout holds first := by
  induction first generalizing d with
  | nil => trivial
  | cons r rest ih => exact ⟨h.1, ih h.2⟩

/-- What holds throughout requests holds throughout the last of them, on the database that the first
left, by induction on these.
-/
theorem Throughout.right {holds : Database → Request → Prop} {d : Database}
    {first second : List Request} (h : d.Throughout holds (first ++ second))
    : (d.after first).Throughout holds second := by
  induction first generalizing d with
  | nil => exact h
  | cons r rest ih => exact ih h.2

/-- A property of the deeds so far and the store holds after requests if keys drawn in vain do not
matter to it and every change that the requests can cause preserves it, by induction on them.
-/
theorem preserves (holds : List Deed → Store → Prop) {fits : Database → Request → Prop}
    (stay : ∀ past s after, holds past s → after.tables = s.tables → s.sequences ≤ after.sequences →
      holds past after)
    (change : ∀ d r past s c after, fits d r → r.Causes d s c → holds past s →
      s.Makes d.now c after → holds (past ++ c.deeds) after)
    {d : Database} {requests : List Request} (throughout : d.Throughout fits requests)
    {past : List Deed} (start : holds past d.store)
    : holds (past ++ d.deeds requests) (d.after requests).store := by
  induction requests generalizing d past with
  | nil =>
      rw [deeds, List.append_nil]
      exact start
  | cons r rest ih =>
      obtain ⟨fit, throughout⟩ := throughout
      have next := (r.runs d).preserves holds stay
        (fun past s c after held caused made => change d r past s c after fit caused held made)
        start
      have last := ih throughout next
      rwa [List.append_assoc] at last

/-- A property of the tables holds after requests if every change that they can cause preserves
it.
-/
theorem preserves_tables (holds : Tables → Prop) {fits : Database → Request → Prop}
    (change : ∀ d r s c after, fits d r → r.Causes d s c → holds s.tables →
      s.Makes d.now c after → holds after.tables)
    {d : Database} {requests : List Request} (throughout : d.Throughout fits requests)
    (start : holds d.store.tables)
    : holds (d.after requests).store.tables := by
  refine @preserves (fun _ s => holds s.tables) fits ?_ ?_ d requests throughout [] start
  · intro _ s after held tables _
    rwa [tables]
  · intro d r _ s c after fit caused held made
    exact change d r s c after fit caused held made

end Database

/-- The content of a user of whom nothing but a name, a password and a role are known. -/
def UserContent.ofName (name password : String) (role : Role) : UserContent where
  username := some name
  email := none
  password := some password
  roleName := some role.name
  created := none

/-- The content of an adopter of whom nothing but a name is known, which is also the username. -/
def AdopterContent.ofName (name : String) : AdopterContent where
  username := some name
  name := some name
  contact := none
  email := none
  address := none
  profile := none
  login := none
  password := none

/-- The content of a pet owner of whom nothing but a name is known. -/
def PetOwnerContent.ofName (name : String) : PetOwnerContent where
  name := some name
  contact := none
  email := none
  address := none
  profile := none
  login := none
  password := none
  username := none

/-- The content of a pet that can be adopted, of which only the owner and a name are known. -/
def PetContent.ofOwner (owner : Int) (name : String) : PetContent where
  owner := some owner
  name := some name
  petType := none
  description := none
  age := none
  gender := none
  healthStatus := none
  healthHistory := none
  vaccinationStatus := none
  vaccinationProof := none
  adoptionStatus := some "Available"
  registered := none

/-- The content of a request that was approved, of which only the pet and the adopter are known. -/
def AdoptionRequestContent.approvedFor (pet adopter : Int) : AdoptionRequestContent where
  pet := some pet
  adopter := some adopter
  status := some "Approved"
  requested := none
  approved := none
  remarks := none

/-- The first instant of 1970. -/
def Calendar.Instant.epoch : Instant :=
  ⟨0, 0, by decide, by decide⟩

end AdoptionRecords
