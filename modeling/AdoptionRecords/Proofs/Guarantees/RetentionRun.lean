import AdoptionRecords.Proofs.Retention.Archiving
import AdoptionRecords.Proofs.Retention.Pruning

/-! A retention run does what its policy asks for, and no more: the requests and pets that are due are
archived, the log entries that are old are removed, and the report counts them. Afterwards nothing is
due, so that a second run at the same time does nothing.
-/

namespace AdoptionRecords

open Calendar Retention

namespace Database

-----------------------------------------------------------------------------------------
-- What the policy asks for
-----------------------------------------------------------------------------------------

/-- The live requests that the policy archives at present. -/
def requestsDue (d : Database) : Set Int :=
  d.store.tables.dueRequests (d.policy.requestCutoff d.clock.date)

/-- The live pets that the policy archives at present. -/
def petsDue (d : Database) : Set Int :=
  d.store.tables.duePets (d.policy.adoptedPetCutoff d.clock.date)

/-- The log entries that the policy removes at present. -/
def entriesAged (d : Database) : Set Int :=
  d.store.tables.aged (d.policy.logCutoff d.clock)

/-- The transitions that archive requests, and after them pets, for the reasons of the policy. -/
def policyArchivals (d : Database) (actor : Option Int) (requests pets : List Int)
    : List Transition :=
  archivals .adoptionRequest actor d.policy.requestReason requests
    ++ archivals .pet actor d.policy.petReason pets

/-- Two lists hold the requests and the pets that are due, each in ascending order. -/
structure ListsDue (d : Database) (requests pets : List Int) : Prop where
  ascendingRequests : requests.Pairwise (· < ·)
  ascendingPets : pets.Pairwise (· < ·)
  mem_requests : ∀ key, key ∈ requests ↔ key ∈ d.requestsDue
  mem_pets : ∀ key, key ∈ pets ↔ key ∈ d.petsDue

/-- (d.AppliesPolicy actor run) holds if the run, a report and a database, is what the policy of d asks
for when it is applied to d by an actor. What is due was moved to the archive, requests first and
each kind in ascending order of the keys, with one log entry for each; of the log entries that were
there before, those that are old are gone. All other rows are as they were.
-/
structure AppliesPolicy (d : Database) (actor : Option Int) (run : Report × Database)
    : Prop where
  requests : ∀ key ∈ d.requestsDue, ∃ row,
    d.store.tables.liveRow? .adoptionRequest key = some row
    ∧ run.2.store.tables.liveRow? .adoptionRequest key = none
    ∧ run.2.store.tables.archivedRow? .adoptionRequest key
      = some (row.toArchive actor d.policy.requestReason d.now)
  pets : ∀ key ∈ d.petsDue, ∃ row,
    d.store.tables.liveRow? .pet key = some row
    ∧ run.2.store.tables.liveRow? .pet key = none
    ∧ run.2.store.tables.archivedRow? .pet key
      = some (row.toArchive actor d.policy.petReason d.now)
  others : ∀ kind key,
    ¬ (kind = .adoptionRequest ∧ key ∈ d.requestsDue) → ¬ (kind = .pet ∧ key ∈ d.petsDue) →
    run.2.store.tables.liveRow? kind key = d.store.tables.liveRow? kind key
    ∧ run.2.store.tables.archivedRow? kind key = d.store.tables.archivedRow? kind key
  ledger : run.2.store.tables.ledger = d.store.tables.ledger
  logged : ∃ requests pets, d.ListsDue requests pets
    ∧ d.store.tables.appended run.2.store.tables
      = (Transition.entries d.now d.store.sequences.log (d.policyArchivals actor requests pets)).map
          fun e => (e.number, e.row)
  pruned : ∀ number ∈ d.entriesAged, run.2.store.tables.logRows.contains number = false
  kept : ∀ number ∉ d.entriesAged, d.store.tables.logRows.contains number = true →
    run.2.store.tables.logRows.find? number = d.store.tables.logRows.find? number
  report : run.1 = ⟨d.requestsDue.ncard, d.petsDue.ncard, d.entriesAged.ncard⟩

-----------------------------------------------------------------------------------------
-- One run
-----------------------------------------------------------------------------------------

variable {d : Database} {requests pets : List Int}

/-- None of the new entries is old, if the cutoff is not later than now. -/
theorem aged_of_completed {actor : Option Int} {after : Store} {cutoff : Option Instant}
    (completed : d.store.CompletedAll d.now (d.policyArchivals actor requests pets) after)
    (young : ∀ limit, cutoff = some limit → ¬ d.now < limit.bound)
    : after.tables.aged cutoff = d.store.tables.aged cutoff := by
  refine completed.logsAlso.aged_eq fun e member => LogEntry.isOlder_row ?_
  rw [(Transition.le_of_mem_entries e member).2]
  exact young

/-- The archiving in a run keeps the clock, the connection and the policy. -/
theorem archiving_keeps (d : Database) (actor : Option Int)
    : let first := (archiveRequests d.clock.date actor).run d
      let second := (archivePets d.clock.date actor).run first.2
      second.2.clock = d.clock ∧ second.2.reachable = d.reachable ∧ second.2.policy = d.policy := by
  intro first second
  obtain ⟨clock, reachable, policy⟩ := Part.requests.archive_keeps d d.clock.date actor
  obtain ⟨clock', reachable', policy'⟩ := Part.pets.archive_keeps first.2 d.clock.date actor
  exact ⟨clock'.trans clock, reachable'.trans reachable, policy'.trans policy⟩

section Accepted

variable (reachable : d.reachable = true) (migrated : d.store.tables.Migrated)
  (exclusive : ∀ kind key, d.store.tables.IsLive kind key → ¬ d.store.tables.IsArchived kind key)
  (free : d.store.HasFreeNumbers (d.requestsDue.ncard + d.petsDue.ncard))
  (requestsAccepted : Accepts (d.policy.requestCutoff d.clock.date))
  (petsAccepted : Accepts (d.policy.adoptedPetCutoff d.clock.date))

include reachable migrated exclusive free requestsAccepted petsAccepted

/-- The archiving in a run completes the transitions of what is due. The requests do not change which
pets are due, nor whether one of these is archived.
-/
theorem completed_of_accepted (actor : Option Int)
    : let first := (archiveRequests d.clock.date actor).run d
      let second := (archivePets d.clock.date actor).run first.2
      ∃ requests pets, d.ListsDue requests pets
        ∧ first.1 = requests.length ∧ second.1 = pets.length
        ∧ d.store.CompletedAll d.now (d.policyArchivals actor requests pets) second.2.store := by
  intro first second
  obtain ⟨clock, connection, policy⟩ : first.2.clock = d.clock ∧ first.2.reachable = d.reachable
      ∧ first.2.policy = d.policy :=
    Part.requests.archive_keeps d d.clock.date actor
  obtain ⟨requests, ascendingRequests, mem_requests, firstCount, head⟩ :=
    Part.requests.archive_of_accepted actor reachable migrated requestsAccepted
      (exclusive .adoptionRequest) (free.mono (Nat.le_add_right ..))
  have lengthRequests : requests.length = d.requestsDue.ncard :=
    length_of_ascending ascendingRequests mem_requests
  have same (kind : Kind) (unlike : kind ≠ .adoptionRequest) (key : Int)
      : first.2.store.tables.liveRow? kind key = d.store.tables.liveRow? kind key
        ∧ first.2.store.tables.archivedRow? kind key = d.store.tables.archivedRow? kind key :=
    (rows_of_archivals head).2 kind key fun h => unlike h.1
  have due : Part.pets.due first.2.store.tables (Part.pets.cutoff d.policy d.clock.date)
      = d.petsDue :=
    Tables.duePets_congr (fun key => (same .pet nofun key).1)
      fun key => (same .adoption nofun key).1
  have stillExclusive (key : Int) (live : first.2.store.tables.IsLive .pet key)
      : ¬ first.2.store.tables.IsArchived .pet key := by
    obtain ⟨liveRow, archivedRow⟩ := same .pet nofun key
    rw [Tables.IsLive, liveRow] at live
    rw [Tables.IsArchived, archivedRow]
    exact exclusive .pet key live
  have enough : first.2.store.HasFreeNumbers d.petsDue.ncard := by
    refine head.hasFreeNumbers ?_
    rwa [archivals, List.length_map, lengthRequests]
  obtain ⟨pets, ascendingPets, mem_pets, secondCount, tail⟩ :=
    Part.pets.archive_of_accepted (d := first.2) actor (connection.trans reachable)
      (head.migrated migrated) (by rwa [policy]) stillExclusive (by rwa [policy, due])
  have now : first.2.now = d.now := congrArg Instant.stored clock
  rw [policy, due] at mem_pets
  rw [policy, now] at tail
  exact ⟨requests, pets, ⟨ascendingRequests, ascendingPets, mem_requests, mem_pets⟩, firstCount,
    secondCount, head.append tail⟩

/-- A run archives what is due, and then cleans the log up. If the store refuses the cutoff no entry is
dated before it, and the new ones are not either.
-/
theorem run_of_accepted (storable : d.store.tables.LogStorable)
    (young : ∀ limit, d.policy.logCutoff d.clock = some limit → ¬ d.now < limit.bound)
    (actor : Option Int)
    : let run := (Retention.run actor).run d
      let cutoff := d.policy.logCutoff d.clock
      ∃ requests pets last, d.ListsDue requests pets
        ∧ d.store.CompletedAll d.now (d.policyArchivals actor requests pets) last
        ∧ run.1 = ⟨requests.length, pets.length, (last.tables.aged cutoff).ncard⟩
        ∧ run.2.store = { last with tables := last.tables.withoutAged cutoff }
        ∧ run.2.clock = d.clock ∧ run.2.reachable = true ∧ run.2.policy = d.policy := by
  intro run cutoff
  obtain ⟨requests, pets, due, requestCount, petCount, completed⟩ := completed_of_accepted reachable
    migrated exclusive free requestsAccepted petsAccepted actor
  let first := (archiveRequests d.clock.date actor).run d
  let second := (archivePets d.clock.date actor).run first.2
  obtain ⟨clock, connection, policy⟩ : second.2.clock = d.clock ∧ second.2.reachable = d.reachable
      ∧ second.2.policy = d.policy :=
    d.archiving_keeps actor
  have connected : second.2.reachable = true := connection.trans reachable
  obtain ⟨rows, present⟩ := (completed.migrated migrated).log
  have reached : second.2.clock.daysBefore? d.policy.logKeepDays = cutoff := by
    rw [clock]
    rfl
  have none_refused : ∀ limit, cutoff = some limit → limit.bound.isStorable = false →
      second.2.store.tables.aged cutoff = ∅ := by
    intro limit (reached : d.policy.logCutoff d.clock = some limit) refused
    rw [aged_of_completed completed young, reached]
    exact storable.aged_eq_empty refused
  have cleaned := run_cleanUpLog connected present reached none_refused
  have whole : run
      = (let cleaned := (cleanUpLog d.policy.logKeepDays).run second.2
        let report : Report := ⟨requests.length, pets.length, cleaned.1⟩
        (report, ((announce (.retentionCompleted report)).run cleaned.2).2)) := by
    rw [← requestCount, ← petCount]
    exact run_run d actor
  rw [cleaned] at whole
  refine ⟨requests, pets, second.2.store, due, completed, ?_, ?_, ?_, ?_, ?_⟩
  · exact congrArg Prod.fst whole
  · exact congrArg (fun result => result.2.store) whole
  · exact (congrArg (fun result => result.2.clock) whole).trans clock
  · exact (congrArg (fun result => result.2.reachable) whole).trans connected
  · exact (congrArg (fun result => result.2.policy) whole).trans policy

end Accepted

theorem mem_policyArchivals {actor : Option Int} {t : Transition}
    : t ∈ d.policyArchivals actor requests pets
      ↔ (∃ key ∈ requests, ⟨.archive, .adoptionRequest, key, actor, d.policy.requestReason⟩ = t)
        ∨ ∃ key ∈ pets, ⟨.archive, .pet, key, actor, d.policy.petReason⟩ = t := by
  simp [policyArchivals, archivals]

/-- The transitions of what is due move it to the archive, and no other row. -/
theorem rows_of_policyArchivals {actor : Option Int} {after : Store}
    (due : d.ListsDue requests pets)
    (completed : d.store.CompletedAll d.now (d.policyArchivals actor requests pets) after)
    : (∀ key ∈ d.requestsDue, ∃ row,
        d.store.tables.liveRow? .adoptionRequest key = some row
        ∧ after.tables.liveRow? .adoptionRequest key = none
        ∧ after.tables.archivedRow? .adoptionRequest key
          = some (row.toArchive actor d.policy.requestReason d.now))
      ∧ (∀ key ∈ d.petsDue, ∃ row,
          d.store.tables.liveRow? .pet key = some row
          ∧ after.tables.liveRow? .pet key = none
          ∧ after.tables.archivedRow? .pet key
            = some (row.toArchive actor d.policy.petReason d.now))
      ∧ ∀ kind key,
        ¬ (kind = .adoptionRequest ∧ key ∈ d.requestsDue) → ¬ (kind = .pet ∧ key ∈ d.petsDue) →
        after.tables.liveRow? kind key = d.store.tables.liveRow? kind key
        ∧ after.tables.archivedRow? kind key = d.store.tables.archivedRow? kind key := by
  have archives : ∀ t ∈ d.policyArchivals actor requests pets, t.operation = .archive := by
    intro t member
    obtain ⟨key, -, rfl⟩ | ⟨key, -, rfl⟩ := mem_policyArchivals.mp member <;> rfl
  have moved := completed.archived archives
  refine ⟨?_, ?_, ?_⟩
  · intro key isDue
    have listed := (due.mem_requests key).mpr isDue
    obtain ⟨row, found, -, rows⟩ := moved _ (mem_policyArchivals.mpr (.inl ⟨key, listed, rfl⟩))
    exact ⟨row, found, rows⟩
  · intro key isDue
    have listed := (due.mem_pets key).mpr isDue
    obtain ⟨row, found, -, rows⟩ := moved _ (mem_policyArchivals.mpr (.inr ⟨key, listed, rfl⟩))
    exact ⟨row, found, rows⟩
  · intro kind key notRequest notPet
    refine completed.others ?_
    rintro t member ⟨rfl, rfl⟩
    obtain ⟨key, listed, rfl⟩ | ⟨key, listed, rfl⟩ := mem_policyArchivals.mp member
    · exact notRequest ⟨rfl, (due.mem_requests key).mp listed⟩
    · exact notPet ⟨rfl, (due.mem_pets key).mp listed⟩

/-- Once the archiving has completed the transitions of what is due, and the old entries are removed
from the log, the policy has been applied.
-/
theorem appliesPolicy_of_completed {actor : Option Int} {last : Store}
    {run : Report × Database} (due : d.ListsDue requests pets)
    (completed : d.store.CompletedAll d.now (d.policyArchivals actor requests pets) last)
    (young : ∀ limit, d.policy.logCutoff d.clock = some limit → ¬ d.now < limit.bound)
    (counted : run.1 = ⟨requests.length, pets.length,
      (last.tables.aged (d.policy.logCutoff d.clock)).ncard⟩)
    (removed : run.2.store.tables = last.tables.withoutAged (d.policy.logCutoff d.clock))
    : d.AppliesPolicy actor run := by
  obtain ⟨requestRows, petRows, otherRows⟩ := rows_of_policyArchivals due completed
  have log := completed.logsAlso
  have aged : last.tables.aged (d.policy.logCutoff d.clock) = d.entriesAged :=
    aged_of_completed completed young
  -- Removing entries from the log leaves the rows of records as they are.
  have live : run.2.store.tables.liveRow? = last.tables.liveRow? := by
    rw [removed]
    rfl
  have archived : run.2.store.tables.archivedRow? = last.tables.archivedRow? := by
    rw [removed]
    rfl
  refine ⟨?_, ?_, ?_, ?_, ⟨requests, pets, due, ?_⟩, ?_, ?_, ?_⟩
  · rwa [live, archived]
  · rwa [live, archived]
  · rwa [live, archived]
  · rw [removed]
    exact completed.ledger
  · rw [removed, Tables.appended_withoutAged, completed.appended_eq]
    rw [aged]
    rintro number ⟨row, -, -, found, -⟩
    exact Table.contains_iff.mpr ⟨row, found⟩
  · intro number old
    rw [removed]
    exact Tables.contains_withoutAged_of_aged (by rwa [aged])
  · intro number notOld there
    rw [removed, Tables.find?_withoutAged (by rwa [aged])]
    refine log.kept number fun e member same => ?_
    rw [← same, log.new e member] at there
    cases there
  · rw [counted, length_of_ascending due.ascendingRequests due.mem_requests,
      length_of_ascending due.ascendingPets due.mem_pets, aged]

-----------------------------------------------------------------------------------------
-- A second run
-----------------------------------------------------------------------------------------

/-- When nothing is due and no entry is old, a run reports that and changes nothing. -/
theorem run_of_nothing_due (reachable : d.reachable = true) (migrated : d.store.tables.Migrated)
    (requestsAccepted : Accepts (d.policy.requestCutoff d.clock.date))
    (petsAccepted : Accepts (d.policy.adoptedPetCutoff d.clock.date))
    (requestsDone : d.requestsDue = ∅) (petsDone : d.petsDue = ∅) (pruned : d.entriesAged = ∅)
    (actor : Option Int)
    : let run := (Retention.run actor).run d
      run.1 = .zero ∧ run.2.store = d.store := by
  obtain ⟨rows, present⟩ := migrated.log
  have cleaned : (cleanUpLog d.policy.logKeepDays).run d = (0, d) :=
    run_cleanUpLog_of_young reachable present pruned
  have requests : (archiveRequests d.clock.date actor).run d = (0, d) :=
    Part.requests.archive_of_none_due actor reachable migrated requestsAccepted requestsDone
  have pets : (archivePets d.clock.date actor).run d = (0, d) :=
    Part.pets.archive_of_none_due actor reachable migrated petsAccepted petsDone
  have whole : (Retention.run actor).run d
      = (.zero, ((announce (.retentionCompleted .zero)).run d).2) := by
    simp only [run_run, requests, pets, cleaned]
    rfl
  rw [whole]
  exact ⟨rfl, rfl⟩

/-- Once a policy has been applied, nothing is due under it. -/
theorem AppliesPolicy.nothing_due {actor : Option Int} {run : Report × Database}
    (h : d.AppliesPolicy actor run) (clock : run.2.clock = d.clock) (policy : run.2.policy = d.policy)
    : run.2.requestsDue = ∅ ∧ run.2.petsDue = ∅ := by
  rw [requestsDue, petsDue, clock, policy]
  constructor
  · refine Tables.dueRequests_eq_empty (t := d.store.tables) ?_ ?_
    · intro key due
      obtain ⟨-, -, gone, -⟩ := h.requests key due
      exact gone
    · intro key notDue
      exact (h.others .adoptionRequest key (fun own => notDue own.2) nofun).1
  · refine Tables.duePets_eq_empty (t := d.store.tables) ?_ ?_ ?_
    · intro key due
      obtain ⟨-, -, gone, -⟩ := h.pets key due
      exact gone
    · intro key notDue
      exact (h.others .pet key nofun fun own => notDue own.2).1
    · intro key
      exact (h.others .adoption key nofun nofun).1

-----------------------------------------------------------------------------------------
-- Runs
-----------------------------------------------------------------------------------------

/-- A retention run by anybody, on a database that can be reached, whose tables are those of the schema,
where no record is both live and archived, the log holds no date that the store would refuse, and the
log has free numbers for all that is due. The cutoffs for requests and pets are none or accepted by
the store, and log entries are kept for no negative number of days; if they are not kept for a day at
all, the clock must tell an instant that is bound as it is stored. Then the run does what the policy
asks for; and a second run at the same clock, by anybody, reports nothing and changes nothing.
-/
theorem retention_exact (reachable : d.reachable = true) (migrated : d.store.tables.Migrated)
    (storable : d.store.tables.LogStorable)
    (exclusive : ∀ kind key, d.store.tables.IsLive kind key → ¬ d.store.tables.IsArchived kind key)
    (free : d.store.HasFreeNumbers (d.requestsDue.ncard + d.petsDue.ncard))
    (requestsAccepted : Accepts (d.policy.requestCutoff d.clock.date))
    (petsAccepted : Accepts (d.policy.adoptedPetCutoff d.clock.date))
    (forward : 0 ≤ d.policy.logKeepDays)
    (precise : 0 < d.policy.logKeepDays ∨ d.clock.BoundAsStored)
    (actor : Option Int)
    : let first := (Retention.run actor).run d
      d.AppliesPolicy actor first
      ∧ ∀ again : Option Int,
          let second := (Retention.run again).run first.2
          second.1 = .zero ∧ second.2.store = first.2.store := by
  have young : ∀ limit, d.policy.logCutoff d.clock = some limit → ¬ d.now < limit.bound :=
    fun limit reached => Instant.not_stored_lt_bound reached forward precise
  obtain ⟨requests, pets, last, due, completed, counted, store, clock, connection, policy⟩ :=
    run_of_accepted reachable migrated exclusive free requestsAccepted petsAccepted storable young
      actor
  -- What follows rests on what is known of the run, not on how it was made.
  dsimp only
  generalize (Retention.run actor).run d = first at counted store clock connection policy ⊢
  have applied : d.AppliesPolicy actor first :=
    appliesPolicy_of_completed due completed young counted (congrArg Store.tables store)
  refine ⟨applied, ?_⟩
  obtain ⟨requestsDone, petsDone⟩ := applied.nothing_due clock policy
  refine run_of_nothing_due connection ?_ ?_ ?_ requestsDone petsDone ?_
  · rw [store]
    exact (completed.migrated migrated).withoutAged _
  · rwa [clock, policy]
  · rwa [clock, policy]
  · rw [entriesAged, clock, policy, store]
    exact Tables.aged_withoutAged ..

/-- An approved request and an adopted pet, of which two adoptions are known, are due 400 days after an
adopter was archived: a run archives both, and removes the log entry of the adopter.
-/
theorem retention_exact_of_one_each
    : let adopted : AdoptionContent := ⟨some 1, some 1, some Instant.epoch.date, none⟩
      let before : List Request := [
        .create .adopter (AdopterContent.ofName "Bob"),
        .transition ⟨.archive, .adopter, 1, some 7, "moved away"⟩,
        .surroundings (Instant.epoch.addSeconds (400 * secondsPerDay)) .standard true,
        .create .adoptionRequest (AdoptionRequestContent.approvedFor 1 1),
        .create .pet { PetContent.ofOwner 1 "Rex" with adoptionStatus := some "Adopted" },
        .create .adoption adopted,
        .create .adoption adopted]
      let d := (fresh .epoch).after before
      let first := (Retention.run (some 7)).run d
      d.AppliesPolicy (some 7) first ∧ first.1 = ⟨1, 1, 1⟩
      ∧ ((Retention.run none).run first.2).1 = .zero := by
  intro adopted before d
  have located := Located.reached .epoch before
  have free : d.store.HasFreeNumbers (d.requestsDue.ncard + d.petsDue.ncard) := by
    refine Store.HasFreeNumbers.mono ?_
      (Nat.add_le_add (Part.requests.ncard_due_le ..) (Part.pets.ncard_due_le ..))
    rw [Tables.ncard_live, Tables.ncard_live]
    decide +kernel
  obtain ⟨applied, again⟩ := retention_exact (d := d) (by decide +kernel) (by decide +kernel)
    (by decide +kernel) (by with_reducible exact located.not_both) free (by decide +kernel)
    (by decide +kernel) (by decide +kernel) (.inl (by decide +kernel)) (some 7)
  exact ⟨applied, by decide +kernel, (again none).1⟩

end Database

end AdoptionRecords
