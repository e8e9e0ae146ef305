import AdoptionRecords.Proofs.Guarantees.Decisions
import Mathlib.Logic.Equiv.Basic

/-! Transitions of unrelated records commute. A transition looks at the rows of its own record, and
beyond them at most at the pets of an owner who is to be archived, or at the owner of a pet that is
to come back. A transition of an unrelated record changes none of these, so neither makes the other
turn out otherwise; only the numbers of the two log entries depend on the order.
-/

namespace AdoptionRecords

open Calendar

-----------------------------------------------------------------------------------------
-- Entries under other numbers
-----------------------------------------------------------------------------------------

/-- A log entry under another number. -/
def LogEntry.renumber (number : Int → Int) (e : LogEntry) : LogEntry :=
  { e with number := number e.number }

namespace Outcome

/-- An outcome that tells of its log entry under another number. -/
def renumber (number : Int → Int) : Outcome → Outcome
  | completed entry => completed (entry.renumber number)
  | other => other

@[simp]
theorem isCompleted_renumber (number : Int → Int) (outcome : Outcome)
    : (outcome.renumber number).isCompleted = outcome.isCompleted := by
  cases outcome <;> rfl

/-- An outcome that tells of no log entry stays. -/
theorem renumber_of_uncompleted {outcome : Outcome} (h : outcome.isCompleted = false)
    (number : Int → Int)
    : outcome.renumber number = outcome := by
  cases outcome with
  | completed => cases h
  | notFound | blocked | failed => rfl

end Outcome

/-- The number of the log entry has no part in what becomes of a transition. -/
theorem Tables.ruling_renumber (t : Tables) (asked : Transition) (entry : LogEntry)
    (number : Int → Int)
    : t.ruling asked (entry.renumber number) = (t.ruling asked entry).renumber number := by
  obtain ⟨operation, kind, key, actor, reason⟩ := asked
  cases operation with
  | archive | restore | permanentDelete =>
      simp only [ruling]
      repeat' split
      all_goals rfl

-----------------------------------------------------------------------------------------
-- Unrelated records
-----------------------------------------------------------------------------------------

namespace Tables

/-- A pet has an owner by its live row or by its archived one. -/
def HasOwner (t : Tables) (pet owner : Int) : Prop :=
  (∃ row : LiveRow .pet, t.liveRow? .pet pet = some row
    ∧ (row.content : PetContent).owner = some owner)
  ∨ ∃ row : ArchivedRow .pet, t.archivedRow? .pet pet = some row
    ∧ (row.content : PetContent).owner = some owner

/-- (t.Guards owner pet) holds if the first transition archives or restores an owner, and the second
one archives or restores a pet of that owner.
-/
structure Guards (t : Tables) (owner pet : Transition) : Prop where
  ownerKind : owner.kind = .petOwner
  petKind : pet.kind = .pet
  ownerMoves : owner.operation ≠ .permanentDelete
  petMoves : pet.operation ≠ .permanentDelete
  owned : t.HasOwner pet.key owner.key

/-- Two transitions are unrelated if they are of different records, and not of an owner and a pet of
that owner, both of which are archived or restored.
-/
structure Unrelated (t : Tables) (a b : Transition) : Prop where
  apart : ¬ (a.kind = b.kind ∧ a.key = b.key)
  first : ¬ t.Guards a b
  second : ¬ t.Guards b a

theorem Unrelated.symm {t : Tables} {a b : Transition} (h : t.Unrelated a b) : t.Unrelated b a :=
  ⟨fun same => h.apart ⟨same.1.symm, same.2.symm⟩, h.second, h.first⟩

/-- (t.AgreesFor asked other) holds if the tables agree in all that a transition looks at: the rows
of its record, the pets that hold back an owner who is archived, and whether the owner of a pet that
is restored is missing.
-/
structure AgreesFor (t : Tables) (asked : Transition) (other : Tables) : Prop where
  live : other.liveRow? asked.kind asked.key = t.liveRow? asked.kind asked.key
  archived : other.archivedRow? asked.kind asked.key = t.archivedRow? asked.kind asked.key
  pets : asked.operation = .archive → asked.kind = .petOwner →
    other.unflaggedPets asked.key = t.unflaggedPets asked.key
  owner : asked.operation = .restore → ∀ row, t.archivedRow? asked.kind asked.key = some row →
    other.absentOwner? asked.kind row.content = t.absentOwner? asked.kind row.content

theorem AgreesFor.symm {t other : Tables} {asked : Transition} (h : t.AgreesFor asked other)
    : other.AgreesFor asked t where
  live := h.live.symm
  archived := h.archived.symm
  pets archives ofOwner := (h.pets archives ofOwner).symm
  owner restores row found := (h.owner restores row (h.archived.symm.trans found)).symm

/-- Tables that agree in what a transition looks at rule it alike. -/
theorem AgreesFor.ruling_eq {t other : Tables} {asked : Transition} (h : t.AgreesFor asked other)
    (entry : LogEntry)
    : other.ruling asked entry = t.ruling asked entry := by
  obtain ⟨live, archived, pets, owner⟩ := h
  obtain ⟨operation, kind, key, actor, reason⟩ := asked
  dsimp only at live archived pets owner
  have isLive : other.IsLive kind key ↔ t.IsLive kind key := by
    rw [IsLive, IsLive, live]
  have isArchived : other.IsArchived kind key ↔ t.IsArchived kind key := by
    rw [IsArchived, IsArchived, archived]
  cases operation with
  | archive =>
      by_cases ofOwner : kind = .petOwner
      · simp only [ruling, isLive, isArchived, pets rfl ofOwner]
      · simp only [ruling, isLive, isArchived, ofOwner, false_and, if_false]
  | restore =>
      cases found : t.archivedRow? kind key with
      | none => simp only [ruling, archived, found]
      | some row => simp only [ruling, archived, found, isLive, owner rfl row found]
  | permanentDelete => simp only [ruling, isArchived]

/-- Live tables with the same rows are the same, if they are those of the schema. -/
theorem Migrated.live_eq {t other : Tables} (h : t.Migrated) (h' : other.Migrated)
    (rows : ∀ kind key, other.liveRow? kind key = t.liveRow? kind key)
    : other.live = t.live := by
  funext kind
  obtain ⟨left, present⟩ := h.live kind
  obtain ⟨right, present'⟩ := h'.live kind
  rw [present, present', Option.some_inj]
  ext1 key
  rw [← liveRow?_of_live present, ← liveRow?_of_live present', rows]

theorem Migrated.archive_eq {t other : Tables} (h : t.Migrated) (h' : other.Migrated)
    (rows : ∀ kind key, other.archivedRow? kind key = t.archivedRow? kind key)
    : other.archive = t.archive := by
  funext kind
  obtain ⟨left, present⟩ := h.archive kind
  obtain ⟨right, present'⟩ := h'.archive kind
  rw [present, present', Option.some_inj]
  ext1 key
  rw [← archivedRow?_of_archive present, ← archivedRow?_of_archive present', rows]

end Tables

namespace Store.Completed

variable {s after s' after' : Store} {now : Instant} {t : Transition}

/-- After a completed transition its entry stands in the log under the number that was next. -/
theorem find?_logRows (h : s.Completed now t after) (number : Int)
    : after.tables.logRows.find? number
      = if number = s.sequences.log then some (t.entry s.sequences.log now).row
        else s.tables.logRows.find? number := by
  obtain ⟨rows, present, -, added⟩ := h.logged
  rw [Tables.logRows_of_log present, Tables.logRows_of_log added, Table.find?_insert]
  rfl

/-- A transition that is completed on two stores with the same rows of its record leaves the same
rows of it.
-/
theorem own_congr (h : s.Completed now t after) (h' : s'.Completed now t after')
    (live : s'.tables.liveRow? t.kind t.key = s.tables.liveRow? t.kind t.key)
    (archived : s'.tables.archivedRow? t.kind t.key = s.tables.archivedRow? t.kind t.key)
    : after'.tables.liveRow? t.kind t.key = after.tables.liveRow? t.kind t.key
      ∧ after'.tables.archivedRow? t.kind t.key = after.tables.archivedRow? t.kind t.key := by
  have own := h.own
  have own' := h'.own
  cases operation : t.operation with
  | archive =>
      simp only [operation] at own own'
      obtain ⟨row, found, -, gone, moved⟩ := own
      obtain ⟨row', found', -, gone', moved'⟩ := own'
      rw [live, found] at found'
      cases found'
      exact ⟨gone'.trans gone.symm, moved'.trans moved.symm⟩
  | restore =>
      simp only [operation] at own own'
      obtain ⟨row, found, -, gone, back⟩ := own
      obtain ⟨row', found', -, gone', back'⟩ := own'
      rw [archived, found] at found'
      cases found'
      exact ⟨back'.trans back.symm, gone'.trans gone.symm⟩
  | permanentDelete =>
      simp only [operation] at own own'
      obtain ⟨-, gone, same⟩ := own
      obtain ⟨-, gone', same'⟩ := own'
      exact ⟨same'.trans (live.trans same.symm), gone'.trans gone.symm⟩

end Store.Completed

-----------------------------------------------------------------------------------------
-- One transition
-----------------------------------------------------------------------------------------

/-- (s.Settles now t outcome after) holds if the transition t, asked for now, has the outcome that
the rows of s rule, and leads to after: it is completed, or nothing has changed.
-/
structure Store.Settles (s : Store) (now : Instant) (t : Transition) (outcome : Outcome)
    (after : Store) : Prop where
  ruled : outcome = s.tables.ruling t (t.entry s.sequences.log now)
  completed : outcome.isCompleted = true → s.Completed now t after
  unchanged : outcome.isCompleted = false → after = s

namespace Store.Settles

variable {s s' middle after after' : Store} {now : Instant} {t other : Transition}
  {outcome outcome' : Outcome} {kind : Kind} {key : Int}

/-- A transition is completed or changes nothing. -/
theorem completed_or_unchanged (h : s.Settles now t outcome after)
    : s.Completed now t after ∨ after = s := by
  cases completed : outcome.isCompleted with
  | true => exact .inl (h.completed completed)
  | false => exact .inr (h.unchanged completed)

theorem rows_of_other (h : s.Settles now t outcome after)
    (apart : ¬ (t.kind = kind ∧ t.key = key))
    : after.tables.liveRow? kind key = s.tables.liveRow? kind key
      ∧ after.tables.archivedRow? kind key = s.tables.archivedRow? kind key := by
  rcases h.completed_or_unchanged with completed | rfl
  · exact completed.others kind key apart
  · exact ⟨rfl, rfl⟩

theorem migrated (h : s.Settles now t outcome after) (held : s.tables.Migrated)
    : after.tables.Migrated := by
  rcases h.completed_or_unchanged with completed | rfl
  · exact completed.migrated held
  · exact held

theorem hasFreeNumbers (h : s.Settles now t outcome after) {count : Nat}
    (free : s.HasFreeNumbers (count + 1))
    : after.HasFreeNumbers count := by
  rcases h.completed_or_unchanged with completed | rfl
  · exact completed.hasFreeNumbers free
  · exact free.mono (Nat.le_succ count)

theorem ledger (h : s.Settles now t outcome after) : after.tables.ledger = s.tables.ledger := by
  rcases h.completed_or_unchanged with completed | rfl
  · exact completed.ledger
  · rfl

/-- A completed transition draws a number of the log, and nothing else draws a key. -/
theorem sequences (h : s.Settles now t outcome after)
    : after.sequences = { s.sequences with
        log := if outcome.isCompleted then s.sequences.log + 1 else s.sequences.log } := by
  cases completed : outcome.isCompleted with
  | true => exact (h.completed completed).sequences
  | false =>
      rw [h.unchanged completed]
      rfl

/-- A completed transition writes its entry under the number that was next, and nothing else is
written in the log.
-/
theorem find?_logRows (h : s.Settles now t outcome after) (number : Int)
    : after.tables.logRows.find? number
      = if outcome.isCompleted = true ∧ number = s.sequences.log then
          some (t.entry s.sequences.log now).row
        else s.tables.logRows.find? number := by
  cases completed : outcome.isCompleted with
  | true => simpa using (h.completed completed).find?_logRows number
  | false => simp [h.unchanged completed]

/-- A transition leaves the live row of a record alone, but if it archives or restores it. -/
theorem liveRow_kept (h : s.Settles now t outcome after)
    (apart : t.kind = kind → t.key = key → t.operation = .permanentDelete)
    : after.tables.liveRow? kind key = s.tables.liveRow? kind key := by
  by_cases own : t.kind = kind ∧ t.key = key
  · obtain ⟨rfl, rfl⟩ := own
    rcases h.completed_or_unchanged with completed | rfl
    · have own := completed.own
      simp only [apart rfl rfl] at own
      exact own.2.2
    · rfl
  · exact (h.rows_of_other own).1

/-- A transition that does not archive or restore a pet of an owner leaves the live rows of the
owner's pets alone.
-/
theorem liveRow_of_owner (h : s.Settles now t outcome after) {pet owner : Int}
    {row : LiveRow .pet} (owned : (row.content : PetContent).owner = some owner)
    (apart : t.kind = .pet → t.operation ≠ .permanentDelete → ¬ s.tables.HasOwner t.key owner)
    : after.tables.liveRow? .pet pet = some row ↔ s.tables.liveRow? .pet pet = some row := by
  by_cases moves : t.kind = .pet ∧ t.key = pet ∧ t.operation ≠ .permanentDelete
  · obtain ⟨ofPet, rfl, moves⟩ := moves
    have unowned := apart ofPet moves
    rcases h.completed_or_unchanged with completed | rfl
    · constructor
      · intro found
        rcases completed.liveRow_before found with was | ⟨old, was, rfl⟩
        · exact was
        · exact (unowned (.inr ⟨old, was, owned⟩)).elim
      · intro found
        exact (unowned (.inl ⟨row, found, owned⟩)).elim
    · rfl
  · rw [h.liveRow_kept fun ofPet same => ?_]
    by_contra relocates
    exact moves ⟨ofPet, same, relocates⟩

/-- A transition of an unrelated record changes nothing that a transition looks at. -/
theorem agreesFor (h : s.Settles now t outcome after) (unrelated : s.tables.Unrelated t other)
    : s.tables.AgreesFor other after.tables := by
  obtain ⟨live, archived⟩ := h.rows_of_other unrelated.apart
  refine ⟨live, archived, ?_, ?_⟩
  · intro archives ofOwner
    have apart : t.kind = .pet → t.operation ≠ .permanentDelete →
        ¬ s.tables.HasOwner t.key other.key := by
      intro ofPet moves owned
      exact unrelated.second ⟨ofOwner, ofPet, by rw [archives]; decide, moves, owned⟩
    ext pet
    constructor
    · rintro ⟨row, found, owned, unflagged⟩
      exact ⟨row, (h.liveRow_of_owner owned apart).mp found, owned, unflagged⟩
    · rintro ⟨row, found, owned, unflagged⟩
      exact ⟨row, (h.liveRow_of_owner owned apart).mpr found, owned, unflagged⟩
  · intro restores row found
    obtain ⟨operation, kind, key, actor, reason⟩ := other
    cases kind with
    | pet =>
        have kept (owner : Int) (owned : (row.content : PetContent).owner = some owner)
            : after.tables.IsLive .petOwner owner ↔ s.tables.IsLive .petOwner owner := by
          rw [Tables.IsLive, Tables.IsLive, h.liveRow_kept fun ofOwner same => ?_]
          by_contra moves
          refine unrelated.first ⟨ofOwner, rfl, moves, ?_, .inr ⟨row, found, ?_⟩⟩
          · rw [restores]
            decide
          · rw [same]
            exact owned
        rw [Tables.absentOwner?, Tables.absentOwner?]
        cases owned : (row.content : PetContent).owner with
        | none => rfl
        | some owner => simp only [Option.filter_some, kept owner owned]
    | user | adopter | petOwner | adoptionRequest | adoption => rfl

/-- A transition that two stores rule alike has the same outcome on both, but for the number of its
log entry.
-/
theorem outcome_eq (h : s.Settles now t outcome after) (h' : s'.Settles now t outcome' after')
    (alike : ∀ entry, s'.tables.ruling t entry = s.tables.ruling t entry) (number : Int → Int)
    (maps : outcome.isCompleted = true → number s.sequences.log = s'.sequences.log)
    : outcome' = outcome.renumber number := by
  have renumbered (number : Int → Int)
      : outcome.renumber number
        = s.tables.ruling t (t.entry (number s.sequences.log) now) := by
    rw [h.ruled, ← Tables.ruling_renumber]
    rfl
  rw [h'.ruled, alike]
  cases completed : outcome.isCompleted with
  | true => rw [renumbered, maps completed]
  | false =>
      -- Without a log entry no number is told, so any number may be put in.
      rw [← renumbered fun _ => s'.sequences.log, outcome.renumber_of_uncompleted completed,
        outcome.renumber_of_uncompleted completed]

/-- A transition that two stores rule alike, and of whose record they have the same rows, leaves the
same rows of it.
-/
theorem own_congr (h : s.Settles now t outcome after) (h' : s'.Settles now t outcome' after')
    (same : outcome'.isCompleted = outcome.isCompleted)
    (agree : s.tables.AgreesFor t s'.tables)
    : after'.tables.liveRow? t.kind t.key = after.tables.liveRow? t.kind t.key
      ∧ after'.tables.archivedRow? t.kind t.key = after.tables.archivedRow? t.kind t.key := by
  cases completed : outcome.isCompleted with
  | true =>
      exact (h.completed completed).own_congr (h'.completed (same.trans completed)) agree.live
        agree.archived
  | false =>
      rw [h.unchanged completed, h'.unchanged (same.trans completed)]
      exact ⟨agree.live, agree.archived⟩

end Store.Settles

-----------------------------------------------------------------------------------------
-- Two transitions in either order
-----------------------------------------------------------------------------------------

/-- (left.SameUpTo number right) holds if two stores are the same but for the numbers of log
entries: an entry of the first stands in the log of the second under another number.
-/
structure Store.SameUpTo (left : Store) (number : Int → Int) (right : Store) : Prop where
  live : right.tables.live = left.tables.live
  archive : right.tables.archive = left.tables.archive
  log : ∀ n, right.tables.logRows.find? (number n) = left.tables.logRows.find? n
  ledger : right.tables.ledger = left.tables.ledger
  sequences : right.sequences = left.sequences

theorem Store.SameUpTo.refl (s : Store) : s.SameUpTo id s :=
  ⟨rfl, rfl, fun _ => rfl, rfl, rfl⟩

/-- How the numbers that follow from a given one are exchanged between the log entries of two
transitions that are made in the other order: only if both are completed.
-/
def exchange (next : Int) (first second : Outcome) : Equiv.Perm Int :=
  if first.isCompleted && second.isCompleted then Equiv.swap next (next + 1) else Equiv.refl Int

namespace Store.Settles

variable {s left right leftEnd rightEnd : Store} {now : Instant} {a b : Transition}
  {first second first' second' : Outcome}

/-- Two unrelated transitions that are made in either order turn out the same, but for the numbers
of their log entries.
-/
theorem outcomes_exchange (ha : s.Settles now a first left) (hb : left.Settles now b second leftEnd)
    (hb' : s.Settles now b second' right) (ha' : right.Settles now a first' rightEnd)
    (unrelated : s.tables.Unrelated a b)
    : second' = second.renumber (exchange s.sequences.log first second)
      ∧ first' = first.renumber (exchange s.sequences.log first second) := by
  have alike := (ha.agreesFor unrelated).ruling_eq
  have alike' := (hb'.agreesFor unrelated.symm).ruling_eq
  have same : second'.isCompleted = second.isCompleted := by
    rw [hb'.outcome_eq hb alike (fun _ => left.sequences.log) fun _ => rfl]
    exact (Outcome.isCompleted_renumber ..).symm
  constructor
  · refine hb.outcome_eq hb' (fun entry => (alike entry).symm) _ fun completed => ?_
    rw [ha.sequences]
    cases firstCompleted : first.isCompleted <;> simp [exchange, firstCompleted, completed]
  · refine ha.outcome_eq ha' alike' _ fun completed => ?_
    rw [hb'.sequences, same]
    cases secondCompleted : second.isCompleted <;> simp [exchange, secondCompleted, completed]

/-- Two unrelated transitions that are made in either order leave the same rows of every record:
those of the first by the first one, those of the second by the second one, and the others as they
were.
-/
theorem rows_exchange (ha : s.Settles now a first left) (hb : left.Settles now b second leftEnd)
    (hb' : s.Settles now b second' right) (ha' : right.Settles now a first' rightEnd)
    (unrelated : s.tables.Unrelated a b) (kind : Kind) (key : Int)
    : rightEnd.tables.liveRow? kind key = leftEnd.tables.liveRow? kind key
      ∧ rightEnd.tables.archivedRow? kind key = leftEnd.tables.archivedRow? kind key := by
  obtain ⟨rfl, rfl⟩ := outcomes_exchange ha hb hb' ha' unrelated
  by_cases own : a.kind = kind ∧ a.key = key
  · obtain ⟨rfl, rfl⟩ := own
    have kept := hb.rows_of_other unrelated.symm.apart
    have same := ha.own_congr ha' (Outcome.isCompleted_renumber ..)
      (hb'.agreesFor unrelated.symm)
    exact ⟨same.1.trans kept.1.symm, same.2.trans kept.2.symm⟩
  by_cases other : b.kind = kind ∧ b.key = key
  · obtain ⟨rfl, rfl⟩ := other
    have kept := ha'.rows_of_other unrelated.apart
    have same := hb.own_congr hb' (Outcome.isCompleted_renumber ..) ?_
    · exact ⟨kept.1.trans same.1, kept.2.trans same.2⟩
    · exact (ha.agreesFor unrelated).symm
  · have leftRows := hb.rows_of_other other
    have rightRows := ha'.rows_of_other own
    rw [leftRows.1, leftRows.2, rightRows.1, rightRows.2, (ha.rows_of_other own).1,
      (ha.rows_of_other own).2, (hb'.rows_of_other other).1, (hb'.rows_of_other other).2]
    exact ⟨rfl, rfl⟩

/-- Two unrelated transitions that are made in either order write the same entries in the log, whose
numbers are exchanged if there are two.
-/
theorem log_exchange (ha : s.Settles now a first left) (hb : left.Settles now b second leftEnd)
    (hb' : s.Settles now b second' right) (ha' : right.Settles now a first' rightEnd)
    (unrelated : s.tables.Unrelated a b) (n : Int)
    : rightEnd.tables.logRows.find? (exchange s.sequences.log first second n)
      = leftEnd.tables.logRows.find? n := by
  obtain ⟨rfl, rfl⟩ := outcomes_exchange ha hb hb' ha' unrelated
  rw [ha'.find?_logRows, hb'.find?_logRows, hb.find?_logRows, ha.find?_logRows, hb'.sequences,
    ha.sequences]
  simp only [Outcome.isCompleted_renumber]
  cases firstCompleted : first.isCompleted with
  | false => simp [exchange, firstCompleted]
  | true =>
      cases secondCompleted : second.isCompleted with
      | false => simp [exchange, firstCompleted, secondCompleted]
      | true =>
          simp only [exchange, firstCompleted, secondCompleted, Bool.and_self, if_true, true_and]
          by_cases ofFirst : n = s.sequences.log
          · subst ofFirst
            rw [Equiv.swap_apply_left, if_pos rfl, if_neg (by omega), if_pos rfl]
            rfl
          by_cases ofSecond : n = s.sequences.log + 1
          · subst ofSecond
            rw [Equiv.swap_apply_right, if_neg (by omega), if_pos rfl, if_pos rfl]
            rfl
          · rw [Equiv.swap_apply_of_ne_of_ne ofFirst ofSecond, if_neg ofSecond, if_neg ofFirst,
              if_neg ofSecond, if_neg ofFirst]

/-- Two unrelated transitions that are made in either order lead to the same store, but for the
numbers of their log entries.
-/
theorem sameUpTo_exchange (ha : s.Settles now a first left)
    (hb : left.Settles now b second leftEnd) (hb' : s.Settles now b second' right)
    (ha' : right.Settles now a first' rightEnd) (unrelated : s.tables.Unrelated a b)
    (migrated : s.tables.Migrated)
    : leftEnd.SameUpTo (exchange s.sequences.log first second) rightEnd := by
  have rows := rows_exchange ha hb hb' ha' unrelated
  have held := hb.migrated (ha.migrated migrated)
  have held' := ha'.migrated (hb'.migrated migrated)
  refine {
    live := held.live_eq held' fun kind key => (rows kind key).1
    archive := held.archive_eq held' fun kind key => (rows kind key).2
    log := log_exchange ha hb hb' ha' unrelated
    ledger := ?_
    sequences := ?_ }
  · rw [ha'.ledger, hb'.ledger, hb.ledger, ha.ledger]
  · obtain ⟨rfl, rfl⟩ := outcomes_exchange ha hb hb' ha' unrelated
    rw [ha'.sequences, hb'.sequences, hb.sequences, ha.sequences]
    simp only [Outcome.isCompleted_renumber]
    split <;> split <;> rfl

end Store.Settles

namespace Database

variable {d : Database}

/-- A transition that is asked of a database settles its store. -/
theorem settles_transition (reachable : d.reachable = true) (migrated : d.store.tables.Migrated)
    (free : d.store.HasFreeNumbers 1) (t : Transition)
    : d.store.Settles d.now t ((transition t).run d).1 ((transition t).run d).2.store := by
  obtain ⟨outcome, completed, unchanged⟩ := run_transition_of_decides reachable
    (.of_migrated migrated free d.now t)
  rw [← outcome] at completed unchanged
  exact ⟨outcome, completed, unchanged⟩

/-- A database that cannot be reached makes every transition fail, and stays. -/
theorem run_transition_of_unreachable (unreachable : d.reachable = false) (t : Transition)
    : ((transition t).run d).1 = .refused .unreachable
      ∧ ((transition t).run d).2.store = d.store := by
  rw [outcome_transition, transition_eq, run_perform, if_neg (by simp [unreachable])]
  exact ⟨rfl, rfl⟩

/-- Transitions of unrelated records commute, on any database whose tables are those of the schema
and whose next two log numbers are free. In either order each of them turns out the same, and they
lead to the same rows of all tables; only if both are completed, the numbers of their log entries
are exchanged.
-/
theorem unrelated_transitions_commute (migrated : d.store.tables.Migrated)
    (free : d.store.HasFreeNumbers 2) {a b : Transition} (unrelated : d.store.tables.Unrelated a b)
    : ∃ first second : Outcome,
        let number := exchange d.store.sequences.log first second
        d.outcomes [a, b] = [first, second]
        ∧ d.outcomes [b, a] = [second.renumber number, first.renumber number]
        ∧ (d.after [.transition a, .transition b]).store.SameUpTo number
          (d.after [.transition b, .transition a]).store := by
  cases reachable : d.reachable with
  | true =>
      have next : d.store.HasFreeNumbers 1 := free.mono (by omega)
      have ha := settles_transition reachable migrated next a
      have hb' := settles_transition reachable migrated next b
      have hb := settles_transition ((reachable_transition d a).trans reachable)
        (ha.migrated migrated) (ha.hasFreeNumbers free) b
      have ha' := settles_transition ((reachable_transition d b).trans reachable)
        (hb'.migrated migrated) (hb'.hasFreeNumbers free) a
      rw [now_transition] at hb ha'
      obtain ⟨sameSecond, sameFirst⟩ := ha.outcomes_exchange hb hb' ha' unrelated
      refine ⟨_, _, rfl, ?_, ha.sameUpTo_exchange hb hb' ha' unrelated migrated⟩
      rw [← sameSecond, ← sameFirst]
      rfl
  | false =>
      have stays (first second : Transition)
          : d.outcomes [first, second] = [.refused .unreachable, .refused .unreachable]
            ∧ (d.after [.transition first, .transition second]).store = d.store := by
        obtain ⟨outcome, store⟩ := run_transition_of_unreachable reachable first
        obtain ⟨outcome', store'⟩ := run_transition_of_unreachable
          ((reachable_transition d first).trans reachable) second
        refine ⟨?_, store'.trans store⟩
        rw [outcomes, outcomes, outcomes, outcome, outcome']
      refine ⟨_, _, (stays a b).1, (stays b a).1, ?_⟩
      rw [(stays a b).2, (stays b a).2]
      exact .refl d.store

/-- An owner of no pet is archived, and a pet of another owner is. Whichever comes first, both are
completed and lead to the same rows; the first of them gets the lower number.
-/
theorem unrelated_transitions_commute_of_pet
    : let d := (fresh .epoch).after [
        .create .petOwner (PetOwnerContent.ofName "Ann"),
        .create .petOwner (PetOwnerContent.ofName "Bob"),
        .create .pet (PetContent.ofOwner 1 "Rex")]
      let owner : Transition := ⟨.archive, .petOwner, 2, none, "moved away"⟩
      let pet : Transition := ⟨.archive, .pet, 1, some 7, "adopted"⟩
      d.outcomes [owner, pet] = [.completed (owner.entry 1 .epoch), .completed (pet.entry 2 .epoch)]
      ∧ d.outcomes [pet, owner]
        = [.completed (pet.entry 1 .epoch), .completed (owner.entry 2 .epoch)]
      ∧ (d.after [.transition owner, .transition pet]).store.SameUpTo (Equiv.swap 1 2)
        (d.after [.transition pet, .transition owner]).store := by
  intro d owner pet
  have unrelated : d.store.tables.Unrelated owner pet := by
    refine ⟨nofun, ?_, fun guards => nomatch guards.ownerKind⟩
    intro guards
    have live : d.store.tables.liveRow? .pet 1 = some (.fresh (PetContent.ofOwner 1 "Rex")) := by
      decide +kernel
    have unarchived : d.store.tables.archivedRow? .pet 1 = none := by
      decide +kernel
    rcases guards.owned with ⟨row, found, owned⟩ | ⟨row, found, -⟩
    · cases live.symm.trans found
      cases owned
    · cases unarchived.symm.trans found
  obtain ⟨first, second, forward, backward, same⟩ :=
    unrelated_transitions_commute (d := d) (by decide +kernel) (by decide +kernel) unrelated
  have completed : d.outcomes [owner, pet]
      = [.completed (owner.entry 1 .epoch), .completed (pet.entry 2 .epoch)] := by
    decide +kernel
  cases completed.symm.trans forward
  exact ⟨completed, backward, same⟩

end Database

end AdoptionRecords
