import AdoptionRecords.Proofs.Guarantees.Decisions
import AdoptionRecords.Proofs.Retention.Due

/-! Archiving records one after another. A live record is archived, or it is archived already and
then fails without a trace; so a list of live records comes down to completed transitions of those
that are not archived. What is due for archiving is such a list.
-/

namespace AdoptionRecords

open Calendar Text

/-- The keys of a list that are not in the archive table of a kind. -/
def Tables.unarchived (t : Tables) (kind : Kind) (keys : List Int) : List Int :=
  keys.filter fun key => ¬ t.IsArchived kind key

-----------------------------------------------------------------------------------------
-- One record
-----------------------------------------------------------------------------------------

namespace Database

variable {d : Database} {kind : Kind} {reason : String}

/-- A live record that is archived already is not archived again; the store stays as it is. -/
theorem run_archival_of_archived {key : Int} (actor : Option Int) (reachable : d.reachable = true)
    (migrated : d.store.tables.Migrated) (unguarded : kind ≠ .petOwner)
    (storable : hasNul reason = false) (live : d.store.tables.IsLive kind key)
    (taken : d.store.tables.IsArchived kind key)
    : let run := (transition ⟨.archive, kind, key, actor, reason⟩).run d
      run.1.isCompleted = false ∧ run.2.store = d.store := by
  obtain ⟨rows, livePresent⟩ := migrated.live kind
  obtain ⟨archived, archivePresent⟩ := migrated.archive kind
  rw [Tables.isArchived_iff_contains archivePresent] at taken
  rw [Tables.isLive_iff_contains livePresent, Table.contains_iff] at live
  obtain ⟨row, found⟩ := live
  have filled := migrated.liveFilled kind key row
    ((Tables.liveRow?_of_live livePresent key).trans found)
  have stopped : d.store.Stops (Transition.move ⟨.archive, kind, key, actor, reason⟩ d.now)
      (.database (.duplicateKey (Work.primaryKey (.archive kind)))) d.store := by
    rw [Transition.move]
    dsimp only
    rw [if_neg unguarded]
    exact Store.stops_moveToArchive_of_taken livePresent archivePresent storable found filled taken
  obtain ⟨outcome, -, kept⟩ := run_transition_of_decides reachable (.of_move stopped)
  refine ⟨?_, kept rfl⟩
  rw [outcome]
  rfl

/-- A live record that is not archived is archived, if the next log number is free. -/
theorem run_archival_of_free {key : Int} (actor : Option Int) (reachable : d.reachable = true)
    (migrated : d.store.tables.Migrated) (unguarded : kind ≠ .petOwner)
    (storable : hasNul reason = false) (live : d.store.tables.IsLive kind key)
    (unarchived : ¬ d.store.tables.IsArchived kind key) (free : d.store.HasFreeNumbers 1)
    : let run := (transition ⟨.archive, kind, key, actor, reason⟩).run d
      run.1.isCompleted = true
      ∧ d.store.Completed d.now ⟨.archive, kind, key, actor, reason⟩ run.2.store := by
  intro run
  let asked : Transition := ⟨.archive, kind, key, actor, reason⟩
  let entry := asked.entry d.store.sequences.log d.now
  have decided := Store.Decides.of_migrated migrated free d.now asked
  have ruled : d.store.tables.ruling asked entry = .completed entry := by
    simp [Tables.ruling, asked, unguarded, storable, live, unarchived]
  rw [ruled] at decided
  obtain ⟨outcome, completed, -⟩ := run_transition_of_decides reachable decided
  refine ⟨?_, completed rfl⟩
  rw [outcome]
  rfl

-----------------------------------------------------------------------------------------
-- Records one after another
-----------------------------------------------------------------------------------------

theorem run_archiveEach_cons (d : Database) (actor : Option Int) (key : Int) (rest : List Int)
    : let head := (transition ⟨.archive, kind, key, actor, reason⟩).run d
      let tail := (Retention.archiveEach kind actor reason rest).run head.2
      (Retention.archiveEach kind actor reason (key :: rest)).run d
        = ((if head.1.isCompleted then 1 else 0) + tail.1, tail.2) := by
  rw [Retention.archiveEach, Session.run_bind, Session.run_bind, Session.run_pure]

/-- Live records that are archived one after another are completed or left as they are: those that are
not archived before are completed, in their order. By induction on the records, of which the first
leaves the rows of the others as they are.
-/
theorem run_archiveEach_of_live {keys : List Int} (actor : Option Int)
    (reachable : d.reachable = true) (migrated : d.store.tables.Migrated)
    (unguarded : kind ≠ .petOwner) (storable : hasNul reason = false) (distinct : keys.Nodup)
    (live : ∀ key ∈ keys, d.store.tables.IsLive kind key)
    (free : d.store.HasFreeNumbers (d.store.tables.unarchived kind keys).length)
    : let run := (Retention.archiveEach kind actor reason keys).run d
      let moved := d.store.tables.unarchived kind keys
      run.1 = moved.length
      ∧ d.store.CompletedAll d.now (Retention.archivals kind actor reason moved) run.2.store := by
  induction keys generalizing d with
  | nil => exact ⟨rfl, .nil⟩
  | cons key rest ih =>
      obtain ⟨apart, distinct⟩ := List.nodup_cons.mp distinct
      obtain ⟨own, live⟩ := List.forall_mem_cons.mp live
      let head := (transition ⟨.archive, kind, key, actor, reason⟩).run d
      have now : head.2.now = d.now := now_transition d _
      have still : head.2.reachable = true := (reachable_transition d _).trans reachable
      rw [run_archiveEach_cons]
      by_cases taken : d.store.tables.IsArchived kind key
      · obtain ⟨failed, kept⟩ := run_archival_of_archived actor reachable migrated unguarded
          storable own taken
        have same : d.store.tables.unarchived kind (key :: rest)
            = d.store.tables.unarchived kind rest := by
          simp [Tables.unarchived, taken]
        rw [same] at free ⊢
        obtain ⟨count, completed⟩ := @ih head.2 still (by rwa [kept]) distinct
          (by rwa [kept]) (by rwa [kept])
        rw [kept] at count completed
        rw [now] at completed
        refine ⟨?_, completed⟩
        rw [count, failed]
        exact Nat.zero_add _
      · have same : d.store.tables.unarchived kind (key :: rest)
            = key :: d.store.tables.unarchived kind rest := by
          simp [Tables.unarchived, taken]
        rw [same] at free ⊢
        obtain ⟨succeeded, step⟩ := run_archival_of_free actor reachable migrated unguarded
          storable own taken (free.mono (Nat.le_add_left 1 _))
        -- The rows of the records that follow are as before, so they fare as they would have.
        have others : ∀ other ∈ rest,
            head.2.store.tables.liveRow? kind other = d.store.tables.liveRow? kind other
            ∧ head.2.store.tables.archivedRow? kind other
              = d.store.tables.archivedRow? kind other := by
          intro other member
          refine step.others kind other ?_
          rintro ⟨-, same⟩
          obtain rfl : key = other := same
          exact apart member
        have later : head.2.store.tables.unarchived kind rest
            = d.store.tables.unarchived kind rest := by
          refine List.filter_congr fun other member => decide_eq_decide.mpr (not_congr ?_)
          rw [Tables.IsArchived, Tables.IsArchived, (others other member).2]
        have stillLive : ∀ other ∈ rest, head.2.store.tables.IsLive kind other := by
          intro other member
          rw [Tables.IsLive, (others other member).1]
          exact live other member
        obtain ⟨count, completed⟩ := @ih head.2 still (step.migrated migrated) distinct stillLive
          (by rw [later]; exact step.hasFreeNumbers free)
        rw [later] at count completed
        rw [now] at completed
        refine ⟨?_, .cons step completed⟩
        rw [count, succeeded, if_pos rfl, List.length_cons, Nat.add_comm]

end Database

-----------------------------------------------------------------------------------------
-- Records that are due
-----------------------------------------------------------------------------------------

namespace Database

variable {d : Database} {kind : Kind} {reason : String}

/-- Records that were archived by completed transitions were moved, and no other row was. -/
theorem rows_of_archivals {s after : Store} {now : Instant} {actor : Option Int} {keys : List Int}
    (h : s.CompletedAll now (Retention.archivals kind actor reason keys) after)
    : (∀ key ∈ keys, ∃ row,
        s.tables.liveRow? kind key = some row
        ∧ after.tables.liveRow? kind key = none
        ∧ after.tables.archivedRow? kind key = some (row.toArchive actor reason now))
      ∧ ∀ other key, ¬ (other = kind ∧ key ∈ keys) →
        after.tables.liveRow? other key = s.tables.liveRow? other key
        ∧ after.tables.archivedRow? other key = s.tables.archivedRow? other key := by
  constructor
  · intro key member
    obtain ⟨row, found, -, gone, moved⟩ := h.archived
      (by simp [Retention.archivals]) ⟨.archive, kind, key, actor, reason⟩
      (List.mem_map.mpr ⟨key, member, rfl⟩)
    exact ⟨row, found, gone, moved⟩
  · intro other key apart
    refine h.others ?_
    intro t member same
    obtain ⟨own, due, rfl⟩ := List.mem_map.mp member
    obtain ⟨rfl, rfl⟩ := same
    exact apart ⟨rfl, due⟩

/-- Archiving what is due keeps the clock, the connection and the policy, by induction on the records. -/
theorem archiveDue_keeps (d : Database) (actor : Option Int) (due : Except Fault (List Int))
    : let after := ((Retention.archiveDue kind actor reason due).run d).2
      after.clock = d.clock ∧ after.reachable = d.reachable ∧ after.policy = d.policy := by
  cases due with
  | error fault => exact ⟨rfl, rfl, rfl⟩
  | ok keys =>
      induction keys generalizing d with
      | nil => exact ⟨rfl, rfl, rfl⟩
      | cons key rest ih =>
          have step := transition_eq d ⟨.archive, kind, key, actor, reason⟩
          obtain ⟨clock, reachable, policy⟩ :=
            ih ((transition ⟨.archive, kind, key, actor, reason⟩).run d).2
          refine ⟨clock.trans ?_, reachable.trans ?_, policy.trans ?_⟩ <;> rw [step]

/-- Live records that are not archived, and are archived one after another, are all completed. -/
theorem run_archiveEach_of_exclusive {keys : List Int} (actor : Option Int)
    (reachable : d.reachable = true) (migrated : d.store.tables.Migrated)
    (unguarded : kind ≠ .petOwner) (storable : hasNul reason = false)
    (ascending : keys.Pairwise (· < ·)) (live : ∀ key ∈ keys, d.store.tables.IsLive kind key)
    (exclusive : ∀ key, d.store.tables.IsLive kind key → ¬ d.store.tables.IsArchived kind key)
    (free : d.store.HasFreeNumbers keys.length)
    : let run := (Retention.archiveEach kind actor reason keys).run d
      run.1 = keys.length
      ∧ d.store.CompletedAll d.now (Retention.archivals kind actor reason keys) run.2.store := by
  have all : d.store.tables.unarchived kind keys = keys := by
    refine List.filter_eq_self.mpr fun key member => ?_
    simpa using exclusive key (live key member)
  have distinct : keys.Nodup := ascending.imp fun below => Int.ne_of_lt below
  have run := run_archiveEach_of_live actor reachable migrated unguarded storable distinct live
    (by rwa [all])
  rwa [all] at run

end Database

-----------------------------------------------------------------------------------------
-- Parts of the policy
-----------------------------------------------------------------------------------------

namespace Retention.Part

variable (part : Part) {d : Database} {today : Date} {keys : List Int}

theorem run_archive (d : Database) (today : Date) (actor : Option Int)
    : (part.archive today actor).run d
        = (archiveDue part.kind actor (part.reason d.policy)
            (d.ask (part.select d.policy today))).run d := by
  rw [archive, Session.run_bind, Session.run_get]

theorem archive_keeps (d : Database) (today : Date) (actor : Option Int)
    : let after := ((part.archive today actor).run d).2
      after.clock = d.clock ∧ after.reachable = d.reachable ∧ after.policy = d.policy := by
  rw [run_archive]
  exact d.archiveDue_keeps actor _

/-- If what is due cannot be told, nothing is archived. -/
theorem archive_of_error {fault : Fault} (actor : Option Int)
    (h : d.ask (part.select d.policy today) = .error fault)
    : (part.archive today actor).run d = (0, d) := by
  rw [run_archive, h]
  rfl

/-- If nothing is due, nothing is archived. -/
theorem archive_of_none_due (actor : Option Int) (reachable : d.reachable = true)
    (migrated : d.store.tables.Migrated) (accepted : Accepts (part.cutoff d.policy today))
    (none_due : part.due d.store.tables (part.cutoff d.policy today) = ∅)
    : (part.archive today actor).run d = (0, d) := by
  obtain ⟨keys, asked⟩ := part.exists_ask reachable migrated accepted
  have due := part.mem_of_ask asked
  rw [none_due] at due
  obtain rfl : keys = [] := List.eq_nil_iff_forall_not_mem.mpr fun key member => (due key).mp member
  rw [run_archive, asked]
  rfl

/-- What is told to be due is live. -/
theorem live_of_ask (asked : d.ask (part.select d.policy today) = .ok keys)
    : ∀ key ∈ keys, d.store.tables.IsLive part.kind key :=
  fun key member => part.live ((part.mem_of_ask asked key).mp member)

/-- If the store accepts the cutoff, and no live record is archived as well, then what is due is
archived, one record after another in ascending order.
-/
theorem archive_of_accepted (actor : Option Int) (reachable : d.reachable = true)
    (migrated : d.store.tables.Migrated) (accepted : Accepts (part.cutoff d.policy today))
    (exclusive : ∀ key, d.store.tables.IsLive part.kind key →
      ¬ d.store.tables.IsArchived part.kind key)
    (free : d.store.HasFreeNumbers
      (part.due d.store.tables (part.cutoff d.policy today)).ncard)
    : let run := (part.archive today actor).run d
      ∃ keys, keys.Pairwise (· < ·)
      ∧ (∀ key, key ∈ keys ↔ key ∈ part.due d.store.tables (part.cutoff d.policy today))
      ∧ run.1 = keys.length
      ∧ d.store.CompletedAll d.now (archivals part.kind actor (part.reason d.policy) keys)
          run.2.store := by
  obtain ⟨keys, asked⟩ := part.exists_ask reachable migrated accepted
  have ascending := part.ascending asked
  have due := part.mem_of_ask asked
  have run := Database.run_archiveEach_of_exclusive actor reachable migrated part.unguarded
    (part.storable d.policy) ascending (part.live_of_ask asked) exclusive
    (by rwa [length_of_ascending ascending due])
  rw [run_archive, asked]
  exact ⟨keys, ascending, due, run⟩

end Retention.Part

end AdoptionRecords
