import AdoptionRecords.Proofs.History.Batches
import AdoptionRecords.Proofs.Retention.Archiving

/-! Records that are archived one after another do not stand in each other's way. One that is archived
already fails and leaves the store to the next as it found it; each of the others is archived as if
it were the only one.
-/

namespace AdoptionRecords

open Calendar Text

-----------------------------------------------------------------------------------------
-- What one record is to the others
-----------------------------------------------------------------------------------------

/-- (d.ArchivesApart kind actor reason keys run) holds if the run, a count and a database, is what
comes of d when the records of keys are archived, each apart from the others. Those that were not
archived are moved, and end in the rows in which they end when they are archived alone. All other
rows, those of records that were archived already among them, are as they were. The count is the
number of records that were moved, and of the log entries that were appended, one for each.
-/
structure Database.ArchivesApart (d : Database) (kind : Kind) (actor : Option Int)
    (reason : String) (keys : List Int) (run : Nat × Database) : Prop where
  moved : ∀ key ∈ keys, ¬ d.store.tables.IsArchived kind key → ∃ row,
    d.store.tables.liveRow? kind key = some row
    ∧ run.2.store.tables.liveRow? kind key = none
    ∧ run.2.store.tables.archivedRow? kind key = some (row.toArchive actor reason d.now)
  alone : ∀ key ∈ keys, ¬ d.store.tables.IsArchived kind key →
    let single := (Retention.archiveEach kind actor reason [key]).run d
    run.2.store.tables.liveRow? kind key = single.2.store.tables.liveRow? kind key
    ∧ run.2.store.tables.archivedRow? kind key = single.2.store.tables.archivedRow? kind key
  others : ∀ other key, ¬ (other = kind ∧ key ∈ keys ∧ ¬ d.store.tables.IsArchived kind key) →
    run.2.store.tables.liveRow? other key = d.store.tables.liveRow? other key
    ∧ run.2.store.tables.archivedRow? other key = d.store.tables.archivedRow? other key
  count : run.1 = (d.store.tables.unarchived kind keys).length
  logged : run.1 = (d.store.tables.appended run.2.store.tables).length
  entries :
    let ts := Retention.archivals kind actor reason (d.store.tables.unarchived kind keys)
    d.store.tables.appended run.2.store.tables
      = (Transition.entries d.now d.store.sequences.log ts).map fun e => (e.number, e.row)

namespace Database

variable {d : Database} {kind : Kind} {reason : String}

/-- Distinct live records, other than owners, are archived apart from each other. -/
theorem archivesApart_archiveEach {keys : List Int} (actor : Option Int)
    (reachable : d.reachable = true) (migrated : d.store.tables.Migrated)
    (unguarded : kind ≠ .petOwner) (storable : hasNul reason = false) (distinct : keys.Nodup)
    (live : ∀ key ∈ keys, d.store.tables.IsLive kind key)
    (free : d.store.HasFreeNumbers (d.store.tables.unarchived kind keys).length)
    : d.ArchivesApart kind actor reason keys
        ((Retention.archiveEach kind actor reason keys).run d) := by
  obtain ⟨count, completed⟩ := run_archiveEach_of_live actor reachable migrated unguarded storable
    distinct live free
  obtain ⟨moved, others⟩ := rows_of_archivals completed
  have member {key : Int}
      : key ∈ d.store.tables.unarchived kind keys
        ↔ key ∈ keys ∧ ¬ d.store.tables.IsArchived kind key := by
    simp [Tables.unarchived]
  refine ⟨?_, ?_, ?_, count, ?_, completed.appended_eq⟩
  · intro key due unarchived
    exact moved key (member.mpr ⟨due, unarchived⟩)
  · intro key due unarchived single
    have one : d.store.tables.unarchived kind [key] = [key] := by
      simp [Tables.unarchived, unarchived]
    have some : 0 < (d.store.tables.unarchived kind keys).length :=
      List.length_pos_of_mem (member.mpr ⟨due, unarchived⟩)
    obtain ⟨-, alone⟩ := run_archiveEach_of_live actor reachable migrated unguarded storable
      (List.nodup_singleton key) (by simpa using live key due)
      (by rw [one]; exact free.mono some)
    rw [one] at alone
    obtain ⟨row, found, gone, there⟩ := moved key (member.mpr ⟨due, unarchived⟩)
    obtain ⟨row', found', gone', there'⟩ := (rows_of_archivals alone).1 key (by simp)
    cases found.symm.trans found'
    exact ⟨gone.trans gone'.symm, there.trans there'.symm⟩
  · intro other key apart
    exact others other key fun h => apart ⟨h.1, member.mp h.2⟩
  · rw [completed.appended_eq, List.length_map, Transition.length_entries, count]
    exact (List.length_map ..).symm

/-- What is due under a part of the policy is live and distinct, so it is archived apart. -/
theorem archivesApart_archive (part : Retention.Part) {today : Date} {keys : List Int}
    (actor : Option Int) (migrated : d.store.tables.Migrated)
    (asked : d.ask (part.select d.policy today) = .ok keys)
    (free : d.store.HasFreeNumbers (d.store.tables.unarchived part.kind keys).length)
    : d.ArchivesApart part.kind actor (part.reason d.policy) keys
        ((part.archive today actor).run d) := by
  have distinct : keys.Nodup := (part.ascending asked).imp fun below => Int.ne_of_lt below
  rw [Retention.Part.run_archive, asked]
  exact archivesApart_archiveEach actor (reachable_of_ask asked) migrated part.unguarded
    (part.storable d.policy) distinct (part.live_of_ask asked) free

/-- Archiving what is due, on any database whose tables are those of the schema, whether records are
archived already or not. If the records that are due can be told and the log has free numbers for
those that are not archived, then they are archived apart from each other. If they cannot be told,
nothing is counted and nothing changes.
-/
theorem due_archived_apart (migrated : d.store.tables.Migrated) (today : Date)
    (actor : Option Int)
    : (∀ keys, d.ask (Retention.dueRequests d.policy today) = .ok keys →
        d.store.HasFreeNumbers (d.store.tables.unarchived .adoptionRequest keys).length →
        d.ArchivesApart .adoptionRequest actor d.policy.requestReason keys
          ((Retention.archiveRequests today actor).run d))
      ∧ (∀ keys, d.ask (Retention.duePets d.policy today) = .ok keys →
          d.store.HasFreeNumbers (d.store.tables.unarchived .pet keys).length →
          d.ArchivesApart .pet actor d.policy.petReason keys
            ((Retention.archivePets today actor).run d))
      ∧ (∀ fault, d.ask (Retention.dueRequests d.policy today) = .error fault →
          (Retention.archiveRequests today actor).run d = (0, d))
      ∧ ∀ fault, d.ask (Retention.duePets d.policy today) = .error fault →
          (Retention.archivePets today actor).run d = (0, d) :=
  ⟨fun _ => archivesApart_archive .requests actor migrated,
    fun _ => archivesApart_archive .pets actor migrated,
    fun _ => Retention.Part.requests.archive_of_error actor,
    fun _ => Retention.Part.pets.archive_of_error actor⟩

/-- Two approved requests are due, of which the first is in the archive as well. The second is archived
and counted, and the first stays where it is.
-/
theorem due_archived_apart_of_requests
    : let made := (fresh .epoch).after [
        .create .adoptionRequest (AdoptionRequestContent.approvedFor 1 1),
        .create .adoptionRequest (AdoptionRequestContent.approvedFor 2 1)]
      let first : LiveRow .adoptionRequest := .fresh (AdoptionRequestContent.approvedFor 1 1)
      let doubled := made.store.tables.setArchive .adoptionRequest
        (Table.empty.insert 1 (first.toArchive none "placed by hand" .epoch))
      let d := { made with store := { made.store with tables := doubled } }
      let run := (Retention.archiveRequests d.clock.date (some 7)).run d
      d.ArchivesApart .adoptionRequest (some 7) d.policy.requestReason [1, 2] run
      ∧ run.1 = 1
      ∧ run.2.store.tables.IsLive .adoptionRequest 1
      ∧ ¬ run.2.store.tables.IsLive .adoptionRequest 2 := by
  intro made first doubled d run
  have asked : d.ask (Retention.dueRequests d.policy d.clock.date) = .ok [1, 2] := by
    decide +kernel
  have apart := (due_archived_apart (d := d) (by decide +kernel) d.clock.date (some 7)).1 [1, 2]
    asked (by decide +kernel)
  have count : (d.store.tables.unarchived .adoptionRequest [1, 2]).length = 1 := by
    decide +kernel
  have kept := apart.others .adoptionRequest 1 (by decide +kernel)
  obtain ⟨row, -, gone, -⟩ := apart.moved 2 (by decide) (by decide +kernel)
  refine ⟨apart, apart.count.trans count, ?_, ?_⟩
  · rw [Tables.IsLive, kept.1]
    decide +kernel
  · rw [Tables.IsLive, gone]
    exact nofun

end Database

end AdoptionRecords
