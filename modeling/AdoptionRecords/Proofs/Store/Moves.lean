import AdoptionRecords.Transition
import AdoptionRecords.Proofs.Store.Rows
import AdoptionRecords.Proofs.Store.Writing

/-! What a transition does to the tables. A transition that is carried out moves or removes one
row and writes one log entry; one that stops before its log entry leaves the store as it was, and
one that stops at its log entry was refused by the store.
-/

namespace AdoptionRecords

open Calendar Text

/-- A live row as it is archived: its content with the circumstances of the archiving. -/
def LiveRow.toArchive {kind : Kind} (row : LiveRow kind) (actor : Option Int) (reason : String)
    (now : Instant) : ArchivedRow kind where
  content := row.content
  archived := some true
  archivedAt := some now
  archivedBy := actor
  reason := some reason

/-- An owner's pets do not hold the owner back: none of them is live and not flagged. -/
def Tables.LetsGo (t : Tables) (owner : Int) : Prop :=
  (∃ owners, t.live .petOwner = some owners)
  ∧ ∃ pets, t.live .pet = some pets ∧ activePets pets owner = 0

/-- An archived pet can come back to its owner, who is live. -/
def Tables.TakesBack (t : Tables) (pet : Int) : Prop :=
  ∃ row owner,
    t.archivedRow? .pet pet = some row ∧ row.content.owner = some owner
    ∧ t.IsLive .petOwner owner

namespace Transition

/-- (t.Moves now before after) holds if the transition can be made on the tables before, and makes
them the tables after; the log is left alone.
-/
inductive Moves (now : Instant) (before : Tables) : Transition → Tables → Prop
  | archive {kind key actor reason live archived row}
    (livePresent : before.live kind = some live)
    (archivePresent : before.archive kind = some archived)
    (storable : hasNul reason = false)
    (found : live.find? key = some row)
    (filled : (ArchivedRow.columns kind).gap? (row.toArchive actor reason now).cells = none)
    (free : archived.contains key = false)
    (letsGo : kind = .petOwner → before.LetsGo key)
    : Moves now before ⟨.archive, kind, key, actor, reason⟩
        ((before.setLive kind (live.erase key)).setArchive kind
          (archived.insert key (row.toArchive actor reason now)))
  | restore {kind key actor reason live archived row}
    (livePresent : before.live kind = some live)
    (archivePresent : before.archive kind = some archived)
    (found : archived.find? key = some row)
    (permitted : (LiveRow.fresh row.content).Permitted)
    (free : live.contains key = false)
    (takesBack : kind = .pet → before.TakesBack key)
    : Moves now before ⟨.restore, kind, key, actor, reason⟩
        ((before.setArchive kind (archived.erase key)).setLive kind
          (live.insert key (LiveRow.fresh row.content)))
  | permanentDelete {kind key actor reason archived}
    (archivePresent : before.archive kind = some archived)
    (found : archived.contains key = true)
    : Moves now before ⟨.permanentDelete, kind, key, actor, reason⟩
        (before.setArchive kind (archived.erase key))

end Transition

namespace Transition.Moves

variable {t : Transition} {now : Instant} {before after : Tables} {kind : Kind} {key : Int}

/-- A transition leaves the log alone before its entry is written. -/
theorem log_eq (h : t.Moves now before after) : after.log = before.log := by
  cases h <;> rfl

/-- A transition leaves the rows of other records alone. -/
theorem rows_of_other (h : t.Moves now before after) (other : ¬ (t.kind = kind ∧ t.key = key))
    : after.liveRow? kind key = before.liveRow? kind key
      ∧ after.archivedRow? kind key = before.archivedRow? kind key := by
  cases h with
  | archive hl ha =>
      constructor
      · exact Tables.liveRow?_setLive_apart hl (fun _ h => Table.find?_erase_of_ne h) other
      · exact Tables.archivedRow?_setArchive_apart ha
          (fun _ h => Table.find?_insert_of_ne _ h) other
  | restore hl ha =>
      constructor
      · exact Tables.liveRow?_setLive_apart hl (fun _ h => Table.find?_insert_of_ne _ h) other
      · exact Tables.archivedRow?_setArchive_apart ha (fun _ h => Table.find?_erase_of_ne h) other
  | permanentDelete ha =>
      constructor
      · rfl
      · exact Tables.archivedRow?_setArchive_apart ha (fun _ h => Table.find?_erase_of_ne h) other

/-- A transition takes the content of its record from one row to the other, or lets it go. -/
theorem rows_of_own (h : t.Moves now before after)
    : match t.operation with
      | .archive => ∃ row,
          before.liveRow? t.kind t.key = some row
          ∧ after.liveRow? t.kind t.key = none
          ∧ after.archivedRow? t.kind t.key = some (row.toArchive t.actor t.reason now)
      | .restore => ∃ row,
          before.archivedRow? t.kind t.key = some row
          ∧ after.archivedRow? t.kind t.key = none
          ∧ after.liveRow? t.kind t.key = some (LiveRow.fresh row.content)
      | .permanentDelete => ∃ row,
          before.archivedRow? t.kind t.key = some row
          ∧ after.archivedRow? t.kind t.key = none
          ∧ after.liveRow? t.kind t.key = before.liveRow? t.kind t.key := by
  cases h with
  | @archive _ _ _ _ _ _ row hl ha _ found _ _ _ =>
      refine ⟨row, ?_, ?_, ?_⟩
      · rw [Tables.liveRow?_of_live hl, found]
      · simp [Table.find?_erase]
      · simp [Table.find?_insert]
  | @restore _ _ _ _ _ _ row hl ha found _ _ _ =>
      refine ⟨row, ?_, ?_, ?_⟩
      · rw [Tables.archivedRow?_of_archive ha, found]
      · simp [Table.find?_erase]
      · simp [Table.find?_insert]
  | permanentDelete ha found =>
      obtain ⟨row, found⟩ := Option.isSome_iff_exists.mp found
      refine ⟨row, ?_, ?_, rfl⟩
      · rw [Tables.archivedRow?_of_archive ha, found]
      · simp [Table.find?_erase]

/-- A transition of a record finds the record where its operation needs it, and takes it where its
operation says.
-/
theorem places (h : t.Moves now before after)
    : match t.operation with
      | .archive =>
          before.IsLive t.kind t.key ∧ ¬ before.IsArchived t.kind t.key
          ∧ ¬ after.IsLive t.kind t.key ∧ after.IsArchived t.kind t.key
      | .restore =>
          ¬ before.IsLive t.kind t.key ∧ before.IsArchived t.kind t.key
          ∧ after.IsLive t.kind t.key ∧ ¬ after.IsArchived t.kind t.key
      | .permanentDelete =>
          before.IsArchived t.kind t.key ∧ ¬ after.IsArchived t.kind t.key
          ∧ (after.IsLive t.kind t.key ↔ before.IsLive t.kind t.key) := by
  cases h with
  | archive hl ha _ found _ free _ =>
      rw [Tables.isLive_iff_contains hl, Tables.isArchived_iff_contains ha, free]
      simp [Table.contains, found, Tables.IsLive, Tables.IsArchived, Table.find?_erase,
        Table.find?_insert]
  | restore hl ha found _ free _ =>
      rw [Tables.isLive_iff_contains hl, Tables.isArchived_iff_contains ha, free]
      simp [Table.contains, found, Tables.IsLive, Tables.IsArchived, Table.find?_erase,
        Table.find?_insert]
  | permanentDelete ha found =>
      rw [Tables.isArchived_iff_contains ha]
      simp [found, Tables.IsLive, Tables.IsArchived, Table.find?_erase]

end Transition.Moves

namespace Store

open Transition Work

variable {s after : Store} {fault : Fault} {kind : Kind} {key : Int}

/-- The guard of an owner's archiving passes exactly when the owner's pets let the owner go. -/
theorem yields_checkPets_iff {owner : Int} {value : Unit}
    : s.Yields (checkPets owner) value after ↔ s.tables.LetsGo owner ∧ after = s := by
  simp only [checkPets, Tables.LetsGo, yields_bind_iff, yields_liveTable_iff, yields_ite_iff,
    not_yields_throw, yields_pure_iff, and_false, false_or, Nat.not_lt, Nat.le_zero_eq]
  constructor
  · intro h
    obtain ⟨owners, _, ⟨ownersPresent, rfl⟩, pets, _, ⟨petsPresent, rfl⟩, none, -, rfl⟩ := h
    exact ⟨⟨⟨owners, ownersPresent⟩, pets, petsPresent, none⟩, rfl⟩
  · intro h
    obtain ⟨⟨⟨owners, ownersPresent⟩, pets, petsPresent, none⟩, rfl⟩ := h
    exact ⟨owners, _, ⟨ownersPresent, rfl⟩, pets, _, ⟨petsPresent, rfl⟩, none, trivial, rfl⟩

/-- The guard of a pet's return passes exactly when the pet's owner takes it back. -/
theorem yields_checkOwner_iff {pet : Int} {value : Unit}
    : s.Yields (checkOwner pet) value after
      ↔ (∃ archived, s.tables.archive .pet = some archived) ∧ s.tables.TakesBack pet
        ∧ after = s := by
  simp only [checkOwner, Tables.TakesBack, yields_bind_iff, yields_archiveTable_iff]
  constructor
  · intro h
    obtain ⟨archived, _, ⟨present, rfl⟩, h⟩ := h
    refine ⟨⟨archived, present⟩, ?_⟩
    cases found : archived.find? pet with
    | none => simp [found] at h
    | some row =>
        cases owned : row.content.owner with
        | none => simp [found, owned] at h
        | some owner =>
            simp only [found, owned, yields_bind_iff, yields_liveTable_iff, yields_ite_iff,
              not_yields_throw, yields_pure_iff, and_false, false_or, Bool.not_eq_true',
              Bool.not_eq_false] at h
            obtain ⟨owners, _, ⟨ownersPresent, rfl⟩, live, -, rfl⟩ := h
            refine ⟨⟨row, owner, ?_, owned, ?_⟩, rfl⟩
            · rw [Tables.archivedRow?_of_archive present, found]
            · rwa [Tables.isLive_iff_contains ownersPresent]
  · intro h
    obtain ⟨⟨archived, present⟩, ⟨row, owner, found, owned, live⟩, rfl⟩ := h
    rw [Tables.archivedRow?_of_archive present] at found
    cases ownersPresent : after.tables.live .petOwner with
    | none => simp [Tables.IsLive, Tables.liveRow?, ownersPresent] at live
    | some owners =>
        rw [Tables.isLive_iff_contains ownersPresent] at live
        exact ⟨archived, after, ⟨present, rfl⟩, by simp [found, owned, ownersPresent, live]⟩

/-- A live row is moved to the archive exactly when it is there and its key is free there. -/
theorem yields_moveToArchive_iff {actor : Option Int} {reason : String} {now : Instant}
    {value : Unit}
    : s.Yields (moveToArchive kind key actor reason now) value after
      ↔ ∃ live archived row,
          s.tables.live kind = some live
          ∧ s.tables.archive kind = some archived
          ∧ hasNul reason = false
          ∧ live.find? key = some row
          ∧ (ArchivedRow.columns kind).gap? (row.toArchive actor reason now).cells = none
          ∧ archived.contains key = false
          ∧ after = { s with
              tables := (s.tables.setLive kind (live.erase key)).setArchive kind
                (archived.insert key (row.toArchive actor reason now)) } := by
  simp only [moveToArchive, yields_bind_iff, yields_liveTable_iff, yields_archiveTable_iff,
    yields_checkTexts_iff, List.any_cons, List.any_nil, Bool.or_false]
  constructor
  · intro h
    obtain ⟨live, _, ⟨livePresent, rfl⟩, archived, _, ⟨archivePresent, rfl⟩, _, _, ⟨storable, rfl⟩,
      h⟩ := h
    cases found : live.find? key with
    | none => simp [found] at h
    | some row =>
        simp only [found, yields_bind_iff, yields_checkFilled_iff, yields_checkFree_iff,
          yields_putLive_iff, yields_putArchive_iff] at h
        obtain ⟨_, _, ⟨filled, rfl⟩, _, _, ⟨free, rfl⟩, _, _, rfl, rfl⟩ := h
        exact ⟨live, archived, row, livePresent, archivePresent, storable, found, filled, free,
          rfl⟩
  · intro h
    obtain ⟨live, archived, row, livePresent, archivePresent, storable, found, filled, free,
      rfl⟩ := h
    refine ⟨live, s, ⟨livePresent, rfl⟩, archived, s, ⟨archivePresent, rfl⟩, (), s,
      ⟨storable, rfl⟩, ?_⟩
    simp only [found, yields_bind_iff, yields_checkFilled_iff, yields_checkFree_iff,
      yields_putLive_iff, yields_putArchive_iff]
    exact ⟨(), s, ⟨filled, rfl⟩, (), s, ⟨free, rfl⟩, (), _, rfl, rfl⟩

/-- An archived row is moved back exactly when it is there, the rules of the live table permit it
and its key is free there.
-/
theorem yields_moveToLive_iff {value : Unit}
    : s.Yields (moveToLive kind key) value after
      ↔ ∃ live archived row,
          s.tables.live kind = some live
          ∧ s.tables.archive kind = some archived
          ∧ archived.find? key = some row
          ∧ (LiveRow.fresh row.content).Permitted
          ∧ live.contains key = false
          ∧ after = { s with
              tables := (s.tables.setArchive kind (archived.erase key)).setLive kind
                (live.insert key (LiveRow.fresh row.content)) } := by
  simp only [moveToLive, yields_bind_iff, yields_liveTable_iff, yields_archiveTable_iff]
  constructor
  · intro h
    obtain ⟨archived, _, ⟨archivePresent, rfl⟩, live, _, ⟨livePresent, rfl⟩, h⟩ := h
    cases found : archived.find? key with
    | none => simp [found] at h
    | some row =>
        simp only [found, yields_bind_iff, yields_checkLive_iff, yields_checkFree_iff,
          yields_putLive_iff, yields_putArchive_iff] at h
        obtain ⟨_, _, ⟨permitted, rfl⟩, _, _, ⟨free, rfl⟩, _, _, rfl, rfl⟩ := h
        exact ⟨live, archived, row, livePresent, archivePresent, found, permitted, free, rfl⟩
  · intro h
    obtain ⟨live, archived, row, livePresent, archivePresent, found, permitted, free, rfl⟩ := h
    refine ⟨archived, s, ⟨archivePresent, rfl⟩, live, s, ⟨livePresent, rfl⟩, ?_⟩
    simp only [found, yields_bind_iff, yields_checkLive_iff, yields_checkFree_iff,
      yields_putLive_iff, yields_putArchive_iff]
    exact ⟨(), s, ⟨permitted, rfl⟩, (), s, ⟨free, rfl⟩, (), _, rfl, rfl⟩

/-- An archived row is removed exactly when it is there. -/
theorem yields_removeArchived_iff {value : Unit}
    : s.Yields (removeArchived kind key) value after
      ↔ ∃ archived,
          s.tables.archive kind = some archived
          ∧ archived.contains key = true
          ∧ after = { s with tables := s.tables.setArchive kind (archived.erase key) } := by
  simp only [removeArchived, yields_bind_iff, yields_archiveTable_iff, yields_ite_iff,
    not_yields_throw, yields_putArchive_iff]
  constructor
  · intro h
    rcases h with ⟨archived, _, ⟨present, rfl⟩, ⟨-, _, _, ⟨⟩, -⟩ | ⟨found, rfl⟩⟩
    exact ⟨archived, present, by simpa using found, rfl⟩
  · intro h
    obtain ⟨archived, present, found, rfl⟩ := h
    exact ⟨archived, s, ⟨present, rfl⟩, .inr ⟨by simpa using found, rfl⟩⟩

section Moves

variable {actor : Option Int} {reason : String} {now : Instant} {value : Unit}

/-- Archiving is a move of the tables; the guard of an owner's archiving comes first. -/
theorem yields_move_archive_iff
    : s.Yields (move ⟨.archive, kind, key, actor, reason⟩ now) value after
      ↔ ∃ tables, Moves now s.tables ⟨.archive, kind, key, actor, reason⟩ tables
          ∧ after = { s with tables } := by
  simp only [move, yields_bind_iff, yields_ite_iff, yields_checkPets_iff,
    yields_moveToArchive_iff]
  constructor
  · intro h
    rcases h with ⟨owner, _, _, ⟨letsGo, rfl⟩, h⟩ | ⟨notOwner, h⟩
    · obtain ⟨live, archived, row, hl, ha, storable, found, filled, free, rfl⟩ := h
      exact ⟨_, .archive hl ha storable found filled free fun _ => letsGo, rfl⟩
    · obtain ⟨live, archived, row, hl, ha, storable, found, filled, free, rfl⟩ := h
      exact ⟨_, .archive hl ha storable found filled free fun h => (notOwner h).elim, rfl⟩
  · intro h
    obtain ⟨tables, moves, rfl⟩ := h
    cases moves with
    | @archive _ _ _ _ live archived row hl ha storable found filled free letsGo =>
        by_cases owner : kind = .petOwner
        · exact .inl ⟨owner, (), s, ⟨letsGo owner, rfl⟩, live, archived, row, hl, ha, storable,
            found, filled, free, rfl⟩
        · exact .inr ⟨owner, live, archived, row, hl, ha, storable, found, filled, free, rfl⟩

/-- Restoring is a move of the tables; the guard of a pet's return comes first. -/
theorem yields_move_restore_iff
    : s.Yields (move ⟨.restore, kind, key, actor, reason⟩ now) value after
      ↔ ∃ tables, Moves now s.tables ⟨.restore, kind, key, actor, reason⟩ tables
          ∧ after = { s with tables } := by
  simp only [move, yields_bind_iff, yields_ite_iff, yields_checkOwner_iff,
    yields_moveToLive_iff]
  constructor
  · intro h
    rcases h with ⟨pet, _, _, ⟨-, takesBack, rfl⟩, h⟩ | ⟨notPet, h⟩
    · obtain ⟨live, archived, row, hl, ha, found, permitted, free, rfl⟩ := h
      exact ⟨_, .restore hl ha found permitted free fun _ => takesBack, rfl⟩
    · obtain ⟨live, archived, row, hl, ha, found, permitted, free, rfl⟩ := h
      exact ⟨_, .restore hl ha found permitted free fun h => (notPet h).elim, rfl⟩
  · intro h
    obtain ⟨tables, moves, rfl⟩ := h
    cases moves with
    | @restore _ _ _ _ live archived row hl ha found permitted free takesBack =>
        by_cases pet : kind = .pet
        · subst pet
          exact .inl ⟨rfl, (), s, ⟨⟨archived, ha⟩, takesBack rfl, rfl⟩, live, archived, row, hl,
            ha, found, permitted, free, rfl⟩
        · exact .inr ⟨pet, live, archived, row, hl, ha, found, permitted, free, rfl⟩

/-- The first part of a transition is a move of the tables, and yields nothing else. -/
theorem yields_move_iff {t : Transition}
    : s.Yields (t.move now) value after
      ↔ ∃ tables, t.Moves now s.tables tables ∧ after = { s with tables } := by
  obtain ⟨operation, kind, key, actor, reason⟩ := t
  cases operation with
  | archive => exact yields_move_archive_iff
  | restore => exact yields_move_restore_iff
  | permanentDelete =>
      simp only [move, yields_removeArchived_iff]
      constructor
      · intro h
        obtain ⟨archived, present, found, rfl⟩ := h
        exact ⟨_, .permanentDelete present found, rfl⟩
      · intro h
        obtain ⟨tables, moves, rfl⟩ := h
        cases moves with
        | permanentDelete present found => exact ⟨_, present, found, rfl⟩

end Moves

/-- A log entry is written under the next number of the log if the store can hold its reason and
the number is free; nothing else is written.
-/
theorem yields_record_iff {t : Transition} {now : Instant} {entry : LogEntry}
    : s.Yields (Log.record t now) entry after
      ↔ ∃ rows,
          s.tables.log = some rows
          ∧ hasNul t.reason = false
          ∧ s.sequences.log ≤ greatestLogNumber
          ∧ rows.contains s.sequences.log = false
          ∧ entry = t.entry s.sequences.log now
          ∧ after = { s.numbered with
              tables := s.tables.setLog (rows.insert s.sequences.log entry.row) } := by
  simp only [Log.record, yields_bind_iff, yields_logTable_iff, yields_checkTexts_iff,
    yields_drawLog_iff, yields_checkFree_iff, yields_putLog_iff, yields_pure_iff, List.any_cons,
    List.any_nil, Bool.or_false]
  constructor
  · intro h
    obtain ⟨rows, _, ⟨present, rfl⟩, _, _, ⟨storable, rfl⟩, _, _, ⟨bound, rfl, rfl⟩, _, _, ⟨free,
      rfl⟩, _, _, rfl, rfl, rfl⟩ := h
    exact ⟨rows, present, storable, bound, free, rfl, rfl⟩
  · intro h
    obtain ⟨rows, present, storable, bound, free, rfl, rfl⟩ := h
    exact ⟨rows, s, ⟨present, rfl⟩, (), s, ⟨storable, rfl⟩, _, s.numbered, ⟨bound, rfl, rfl⟩, (),
      _, ⟨free, rfl⟩, (), _, rfl, rfl, rfl⟩

/-- A transition that is carried out is a move of the tables, then a log entry. -/
theorem yields_carryOut_iff {t : Transition} {now : Instant} {entry : LogEntry}
    : s.Yields (t.carryOut now) entry after
      ↔ ∃ tables,
          t.Moves now s.tables tables
          ∧ { s with tables : Store }.Yields (Log.record t now) entry after := by
  simp only [carryOut, yields_bind_iff, yields_move_iff]
  constructor
  · intro h
    obtain ⟨_, _, ⟨tables, moves, rfl⟩, recorded⟩ := h
    exact ⟨tables, moves, recorded⟩
  · intro h
    obtain ⟨tables, moves, recorded⟩ := h
    exact ⟨(), _, ⟨tables, moves, rfl⟩, recorded⟩

end Store

namespace Work

open Transition

/-- The guard of an owner's archiving writes nothing. -/
theorem writesNothing_checkPets (owner : Int) : WritesNothing (checkPets owner) :=
  .bind (writesNothing_liveTable _) fun _ =>
    .bind (writesNothing_liveTable _) fun _ =>
    .ite (.throw _) (.pure _)

/-- The guard of a pet's return writes nothing. -/
theorem writesNothing_checkOwner (pet : Int) : WritesNothing (checkOwner pet) := by
  refine .bind (writesNothing_archiveTable _) fun archived => ?_
  cases archived.find? pet with
  | none => exact .throw _
  | some row =>
      dsimp only
      cases row.content.owner with
      | none => exact .refuse _
      | some owner =>
          exact .bind (writesNothing_liveTable _) fun _ => .ite (.throw _) (.pure _)

/-- A live row is moved to the archive only once nothing forbids it. -/
theorem writesLast_moveToArchive (kind : Kind) (key : Int) (actor : Option Int) (reason : String)
    (now : Instant)
    : WritesLast (moveToArchive kind key actor reason now) := by
  refine .bind (writesNothing_liveTable _) fun live => ?_
  refine .bind (writesNothing_archiveTable _) fun archived => ?_
  refine .bind (writesNothing_checkTexts _) fun _ => ?_
  cases live.find? key with
  | none => exact (WritesNothing.throw _).toWritesLast
  | some row =>
      refine .bind (writesNothing_checkFilled ..) fun _ => ?_
      refine .bind (writesNothing_checkFree ..) fun _ => ?_
      exact .of_not_stops (by simp)

/-- An archived row is moved back only once nothing forbids it. -/
theorem writesLast_moveToLive (kind : Kind) (key : Int) : WritesLast (moveToLive kind key) := by
  refine .bind (writesNothing_archiveTable _) fun archived => ?_
  refine .bind (writesNothing_liveTable _) fun live => ?_
  cases archived.find? key with
  | none => exact (WritesNothing.throw _).toWritesLast
  | some row =>
      refine .bind (writesNothing_checkLive _) fun _ => ?_
      refine .bind (writesNothing_checkFree ..) fun _ => ?_
      exact .of_not_stops (by simp)

/-- An archived row is removed only once it was found. -/
theorem writesLast_removeArchived (kind : Kind) (key : Int)
    : WritesLast (removeArchived kind key) := by
  refine .bind (writesNothing_archiveTable _) fun archived => ?_
  refine .ite ?_ ?_
  · exact .throw_bind ..
  · exact .of_not_stops (by simp)

/-- The first part of a transition writes last: each of its checks precedes its first change. -/
theorem writesLast_move (t : Transition) (now : Instant) : WritesLast (t.move now) := by
  obtain ⟨operation, kind, key, actor, reason⟩ := t
  cases operation with
  | archive =>
      refine .ite ?_ ?_
      · exact .bind (writesNothing_checkPets _) fun _ => writesLast_moveToArchive ..
      · exact writesLast_moveToArchive ..
  | restore =>
      refine .ite ?_ ?_
      · exact .bind (writesNothing_checkOwner _) fun _ => writesLast_moveToLive ..
      · exact writesLast_moveToLive ..
  | permanentDelete => exact writesLast_removeArchived ..

/-- A log entry is written last of all: one that is refused has drawn a number at most. -/
theorem writesLast_record (t : Transition) (now : Instant) : WritesLast (Log.record t now) :=
  .bind writesNothing_logTable fun _ =>
    .bind (writesNothing_checkTexts _) fun _ =>
    .bind writesNothing_drawLog fun _ =>
    .bind (writesNothing_checkFree ..) fun _ =>
    .of_not_stops (by simp [-bind_pure_comp])

end Work

namespace Store

variable {s after : Store} {fault : Fault}

/-- A log entry that is not written was refused by the store. -/
theorem Stops.spoils_of_record {t : Transition} {now : Instant}
    (h : s.Stops (Log.record t now) fault after)
    : fault.spoils = true := by
  simp only [Log.record, stops_bind_iff, stops_logTable_iff, stops_checkTexts_iff,
    stops_drawLog_iff, stops_checkFree_iff, not_stops_putLog, not_stops_pure, and_false,
    exists_false, or_false] at h
  rcases h with ⟨⟨-, rfl⟩, -⟩ | ⟨_, _, -, h⟩
  · rfl
  rcases h with ⟨-, rfl, -⟩ | ⟨_, _, -, h⟩
  · rfl
  rcases h with ⟨-, rfl, -⟩ | ⟨_, _, -, -, rfl, -⟩
  · rfl
  · rfl

/-- A transition that stops was refused at its log entry, after the move, or it has written
nothing.
-/
theorem Stops.of_carryOut {t : Transition} {now : Instant}
    (h : s.Stops (t.carryOut now) fault after)
    : (fault.spoils = true ∧ s.sequences ≤ after.sequences) ∨ s.Keeps after := by
  rcases stops_bind_iff.mp h with early | ⟨_, middle, moved, late⟩
  · exact .inr ((Work.writesLast_move t now).stops early)
  · obtain ⟨tables, -, rfl⟩ := yields_move_iff.mp moved
    exact .inl ⟨late.spoils_of_record, ((Work.writesLast_record t now).stops late).sequences⟩

end Store

end AdoptionRecords
