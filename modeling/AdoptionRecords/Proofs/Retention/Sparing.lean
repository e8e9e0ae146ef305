import AdoptionRecords.Proofs.Calendar.Spans
import AdoptionRecords.Proofs.Guarantees.RetentionRun
import AdoptionRecords.Proofs.History.Fates

/-! Records that archiving leaves alone. A record that is not due keeps its rows on any store, even
one where the archiving of other records fails. If no number of days is negative then cutoffs do not
lie in the future, so what is dated today or later is not due.
-/

namespace AdoptionRecords

open Calendar Retention

-----------------------------------------------------------------------------------------
-- Rows that stay
-----------------------------------------------------------------------------------------

namespace Tables

variable {before middle after : Tables} {kind : Kind} {key : Int}

/-- (before.SameRows after kind key) holds if a record has the same rows before and after, a live one,
an archived one, both or none.
-/
def SameRows (before after : Tables) (kind : Kind) (key : Int) : Prop :=
  after.liveRow? kind key = before.liveRow? kind key
  ∧ after.archivedRow? kind key = before.archivedRow? kind key

theorem SameRows.of_eq (same : after = before) : before.SameRows after kind key := by
  rw [same]
  exact ⟨rfl, rfl⟩

theorem SameRows.trans (first : before.SameRows middle kind key)
    (second : middle.SameRows after kind key)
    : before.SameRows after kind key :=
  ⟨second.1.trans first.1, second.2.trans first.2⟩

end Tables

/-- Removing log entries leaves the rows of records alone, by induction on the run. -/
theorem Store.Runs.sameRows_of_prunes {now : Instant} {s after : Store} {deeds : List Deed}
    {kind : Kind} {key : Int}
    (h : Runs now (fun _ c => ∃ keep, c = .prune keep) s deeds after)
    : s.tables.SameRows after.tables kind key := by
  induction h with
  | stay tables => exact .of_eq tables
  | change pruning made =>
      obtain ⟨keep, rfl⟩ := pruning
      have apart : ∀ deed ∈ (Change.prune keep).deeds, ¬ deed.Concerns kind key := by
        simp [Change.deeds]
      obtain ⟨archived, live | ⟨_, ⟨⟩, -⟩⟩ := made.rows_of_apart apart
      exact ⟨live, archived⟩
  | trans _ _ head tail => exact head.trans tail

namespace Database

variable {kind own : Kind} {key : Int} {reason : String}

/-- A transition leaves the rows of other records alone: it is completed, or changes no row at all. -/
theorem sameRows_transition (d : Database) {t : Transition}
    (apart : ¬ (t.kind = kind ∧ t.key = key))
    : d.store.tables.SameRows ((transition t).run d).2.store.tables kind key := by
  cases outcome : ((transition t).run d).1 with
  | completed entry =>
      obtain ⟨completed, -⟩ := Store.Completed.of_yields (yields_of_completed outcome)
      exact completed.others kind key apart
  | notFound | blocked | failed =>
      exact .of_eq (untouched_of_transition (by rw [outcome]; rfl)).tables

/-- Archiving records one after another leaves the rows of others alone, by induction on the
records.
-/
theorem sameRows_archiveEach (d : Database) (actor : Option Int) {keys : List Int}
    (apart : ¬ (own = kind ∧ key ∈ keys))
    : d.store.tables.SameRows ((archiveEach own actor reason keys).run d).2.store.tables kind
        key := by
  induction keys generalizing d with
  | nil => exact .of_eq rfl
  | cons first rest ih =>
      rw [run_archiveEach_cons]
      refine (d.sameRows_transition ?_).trans (ih _ ?_)
      · rintro ⟨ofKind, rfl⟩
        exact apart ⟨ofKind, List.mem_cons_self⟩
      · rintro ⟨ofKind, member⟩
        exact apart ⟨ofKind, List.mem_cons_of_mem _ member⟩

/-- A part of the policy leaves the rows of what is not due alone; it changes none if it cannot tell
what is due.
-/
theorem sameRows_archive (part : Part) (d : Database) (today : Date) (actor : Option Int)
    (apart : ¬ (part.kind = kind
      ∧ key ∈ part.due d.store.tables (part.cutoff d.policy today)))
    : d.store.tables.SameRows ((part.archive today actor).run d).2.store.tables kind key := by
  cases asked : d.ask (part.select d.policy today) with
  | error fault =>
      rw [part.archive_of_error actor asked]
      exact .of_eq rfl
  | ok keys =>
      rw [part.run_archive, asked]
      refine d.sameRows_archiveEach actor ?_
      rintro ⟨ofKind, member⟩
      exact apart ⟨ofKind, (part.mem_of_ask asked key).mp member⟩

/-- Cleaning the log up leaves the rows of records alone. -/
theorem sameRows_cleanUpLog (d : Database) (days : Int)
    : d.store.tables.SameRows ((cleanUpLog days).run d).2.store.tables kind key :=
  (d.runs_cleanUpLog days).sameRows_of_prunes

/-- A retention run leaves the rows of what is not due at its start alone, since archiving requests
makes no other pet due.
-/
theorem sameRows_run (d : Database) (actor : Option Int)
    (notRequest : ¬ (kind = .adoptionRequest ∧ key ∈ d.requestsDue))
    (notPet : ¬ (kind = .pet ∧ key ∈ d.petsDue))
    : d.store.tables.SameRows ((Retention.run actor).run d).2.store.tables kind key := by
  let first := (archiveRequests d.clock.date actor).run d
  let second := (archivePets d.clock.date actor).run first.2
  have policy : first.2.policy = d.policy :=
    (Part.requests.archive_keeps d d.clock.date actor).2.2
  have same (kind : Kind) (unlike : kind ≠ .adoptionRequest) (key : Int)
      : d.store.tables.SameRows first.2.store.tables kind key :=
    d.sameRows_archive .requests d.clock.date actor fun h => unlike h.1.symm
  -- Which pets are due is told only after the requests were archived, by the same pets and adoptions.
  have due : Part.pets.due first.2.store.tables (Part.pets.cutoff first.2.policy d.clock.date)
      = d.petsDue := by
    rw [policy]
    exact Tables.duePets_congr (fun key => (same .pet nofun key).1)
      fun key => (same .adoption nofun key).1
  have requests : d.store.tables.SameRows first.2.store.tables kind key :=
    d.sameRows_archive .requests d.clock.date actor fun h => notRequest ⟨h.1.symm, h.2⟩
  have pets : first.2.store.tables.SameRows second.2.store.tables kind key := by
    refine sameRows_archive .pets first.2 d.clock.date actor ?_
    rw [due]
    exact fun h => notPet ⟨h.1.symm, h.2⟩
  rw [Retention.run_run]
  exact (requests.trans pets).trans (sameRows_cleanUpLog ..)

end Database

-----------------------------------------------------------------------------------------
-- Today and later
-----------------------------------------------------------------------------------------

/-- What is dated today or later is not before a date that is not in the future. -/
theorem Calendar.Date.not_lt_of_past {date today limit : Date} (later : ¬ date < today)
    (past : ¬ today < limit)
    : ¬ date < limit := by
  change ¬ date.day < today.day at later
  change ¬ today.day < limit.day at past
  change ¬ date.day < limit.day
  omega

namespace Tables

/-- The live requests that were approved today or later. -/
def requestsFrom (t : Tables) (today : Date) : Set Int :=
  { key | ∃ row date, t.liveRow? .adoptionRequest key = some row
    ∧ row.content.approved = some date ∧ ¬ date < today }

/-- The pets of which no live adoption is dated before today. -/
def petsFrom (t : Tables) (today : Date) : Set Int :=
  { pet | ∀ adoption row date, t.liveRow? .adoption adoption = some row →
    row.content.pet = some pet → row.content.adopted = some date → ¬ date < today }

variable {t : Tables} {today : Date} {cutoff : Option Date} {key : Int}

section Past

variable (past : ∀ limit, cutoff = some limit → ¬ today < limit)

include past

/-- No request of today or later is due by a cutoff that is not in the future. -/
theorem not_mem_dueRequests (recent : key ∈ t.requestsFrom today) : key ∉ t.dueRequests cutoff := by
  obtain ⟨row, date, found, approved, later⟩ := recent
  rintro ⟨other, there, -, due⟩
  cases found.symm.trans there
  obtain ⟨limit, same, before⟩ := due date approved
  exact Date.not_lt_of_past later (past limit same) before

/-- No pet that was adopted today or later only is due by a cutoff that is not in the future. -/
theorem not_mem_duePets (recent : key ∈ t.petsFrom today) : key ∉ t.duePets cutoff := by
  rintro ⟨-, -, -, adoption, row, date, limit, found, own, adopted, same, before⟩
  have later := recent adoption row date found own adopted
  exact Date.not_lt_of_past later (past limit same) before

end Past

/-- (t.Spares today after) holds if the requests of today or later, and the pets that were adopted
today or later only, have the same rows in t and after.
-/
structure Spares (t : Tables) (today : Date) (after : Tables) : Prop where
  requests : ∀ key ∈ t.requestsFrom today, t.SameRows after .adoptionRequest key
  pets : ∀ key ∈ t.petsFrom today, t.SameRows after .pet key

end Tables

namespace Retention.Policy

/-- A policy is safe if it counts no days forward, so that its dates of cutoff do not lie in the
future.
-/
structure IsSafe (p : Policy) : Prop where
  requestDays : 0 ≤ p.requestDays
  adoptedPetDays : 0 ≤ p.adoptedPetDays
  logKeepDays : 0 ≤ p.logKeepDays
  requestCutoff : ∀ today limit, p.requestCutoff today = some limit → ¬ today < limit
  adoptedPetCutoff : ∀ today limit, p.adoptedPetCutoff today = some limit → ¬ today < limit

/-- A date some days back does not lie in the future. -/
theorem daysBefore?_past {today limit : Date} {days : Int} (forward : 0 ≤ days)
    (reached : today.daysBefore? days = some limit)
    : ¬ today < limit := by
  rw [Date.daysBefore?_eq_some_iff] at reached
  change ¬ today.day < limit.day
  omega

/-- A policy is safe if none of its numbers of days is negative. -/
theorem IsSafe.of_nonneg {p : Policy} (requests : 0 ≤ p.requestDays) (pets : 0 ≤ p.adoptedPetDays)
    (log : 0 ≤ p.logKeepDays)
    : p.IsSafe :=
  ⟨requests, pets, log, fun _ _ => daysBefore?_past requests, fun _ _ => daysBefore?_past pets⟩

end Retention.Policy

namespace Database

variable {d : Database} (safe : d.policy.IsSafe)

include safe

theorem spares_archiveRequests (today : Date) (actor : Option Int)
    : d.store.tables.Spares today ((archiveRequests today actor).run d).2.store.tables where
  requests _ recent :=
    d.sameRows_archive .requests today actor fun h =>
      Tables.not_mem_dueRequests (safe.requestCutoff today) recent h.2
  pets _ _ := d.sameRows_archive .requests today actor fun h => nomatch h.1

theorem spares_archivePets (today : Date) (actor : Option Int)
    : d.store.tables.Spares today ((archivePets today actor).run d).2.store.tables where
  requests _ _ := d.sameRows_archive .pets today actor fun h => nomatch h.1
  pets _ recent :=
    d.sameRows_archive .pets today actor fun h =>
      Tables.not_mem_duePets (safe.adoptedPetCutoff today) recent h.2

theorem spares_run (actor : Option Int)
    : d.store.tables.Spares d.clock.date ((Retention.run actor).run d).2.store.tables where
  requests _ recent :=
    d.sameRows_run actor
      (fun h => Tables.not_mem_dueRequests (safe.requestCutoff d.clock.date) recent h.2)
      fun h => nomatch h.1
  pets _ recent :=
    d.sameRows_run actor (fun h => nomatch h.1) fun h =>
      Tables.not_mem_duePets (safe.adoptedPetCutoff d.clock.date) recent h.2

end Database

end AdoptionRecords
