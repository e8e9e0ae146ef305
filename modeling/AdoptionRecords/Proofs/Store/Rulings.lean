import AdoptionRecords.Proofs.Store.Completions
import AdoptionRecords.Proofs.Store.Counting

/-! What becomes of a transition. The rows of the record and of its owner decide it: the guards come
first, then what the store refuses and what is not there, in an order that is not the same for
archiving and for restoring. A transition that is not completed leaves the store as it is.
-/

namespace AdoptionRecords

open Calendar Text Work

instance : (kind : Kind) → (content : Content kind) → Decidable (Content.HasKnownRole kind content)
  | .user, _ => inferInstanceAs (Decidable (_ = true))
  | .adopter, _ | .petOwner, _ | .pet, _ | .adoptionRequest, _ | .adoption, _ =>
      inferInstanceAs (Decidable True)

/-- The outcome of a transition that the store refuses. -/
def Outcome.refused (cause : StoreError) : Outcome :=
  failed (Fault.database cause).message

namespace Tables

/-- The owner of a pet, if the content is that of a pet and the owner is not live. A live owner may
be flagged.
-/
def absentOwner? (t : Tables) : (kind : Kind) → Content kind → Option Int
  | .pet, c => (PetContent.owner c).filter fun owner => ¬ t.IsLive .petOwner owner
  | .user, _ | .adopter, _ | .petOwner, _ | .adoptionRequest, _ | .adoption, _ => none

/-- What becomes of a transition by the rows of the tables; if it is completed, with the given log
entry.
-/
noncomputable def ruling (t : Tables) (asked : Transition) (entry : LogEntry) : Outcome :=
  let ⟨operation, kind, key, _, reason⟩ := asked
  match operation with
  | .archive =>
      let pets := (t.unflaggedPets key).ncard
      if kind = .petOwner ∧ 0 < pets then .blocked s!"pet owner {key} has {pets} active pet(s)"
      else if hasNul reason then .refused .textWithNul
      else if ¬ t.IsLive kind key then .notFound
      else if t.IsArchived kind key then .refused (.duplicateKey (primaryKey (.archive kind)))
      else .completed entry
  | .restore =>
      match t.archivedRow? kind key with
      | none => .notFound
      | some row =>
          match t.absentOwner? kind row.content with
          | some owner => .blocked s!"pet owner {owner} of pet {key} is not live"
          | none =>
              if ¬ Content.HasKnownRole kind row.content then
                .refused (.checkViolated Kind.user.liveTable "users_role_check")
              else if t.IsLive kind key then .refused (.duplicateKey (primaryKey (.live kind)))
              else if hasNul reason then .refused .textWithNul
              else .completed entry
  | .permanentDelete =>
      if ¬ t.IsArchived kind key then .notFound
      else if hasNul reason then .refused .textWithNul
      else .completed entry

end Tables

namespace Store

open Transition

variable {s : Store} {kind : Kind} {key : Int} {actor : Option Int} {reason : String}
  {now : Instant}

-----------------------------------------------------------------------------------------
-- Where the parts of a transition stop
-----------------------------------------------------------------------------------------

section Parts

variable {live : Table (LiveRow kind)} {archived : Table (ArchivedRow kind)}

/-- A reason with the character NUL is refused before the row is looked up. -/
theorem stops_moveToArchive_of_nul (livePresent : s.tables.live kind = some live)
    (archivePresent : s.tables.archive kind = some archived) (nul : hasNul reason = true)
    : s.Stops (moveToArchive kind key actor reason now) (.database .textWithNul) s := by
  simp [moveToArchive, livePresent, archivePresent, nul]

/-- A row that is not there is not moved to the archive. -/
theorem stops_moveToArchive_of_absent (livePresent : s.tables.live kind = some live)
    (archivePresent : s.tables.archive kind = some archived) (storable : hasNul reason = false)
    (absent : live.find? key = none)
    : s.Stops (moveToArchive kind key actor reason now) (.notLive kind key) s := by
  simp [moveToArchive, livePresent, archivePresent, storable, absent, and_assoc]

/-- A row is not moved to the archive if its key is taken there. -/
theorem stops_moveToArchive_of_taken {row : LiveRow kind}
    (livePresent : s.tables.live kind = some live)
    (archivePresent : s.tables.archive kind = some archived) (storable : hasNul reason = false)
    (found : live.find? key = some row) (filled : Content.Filled kind row.content)
    (taken : archived.contains key = true)
    : s.Stops (moveToArchive kind key actor reason now)
        (.database (.duplicateKey (primaryKey (.archive kind)))) s := by
  have complete := filled.toArchive actor reason now
  rw [LiveRow.toArchive] at complete
  simp [moveToArchive, livePresent, archivePresent, storable, found, complete, taken, and_assoc]

/-- A row that is not archived is not moved back. -/
theorem stops_moveToLive_of_absent (livePresent : s.tables.live kind = some live)
    (archivePresent : s.tables.archive kind = some archived) (absent : archived.find? key = none)
    : s.Stops (moveToLive kind key) (.notArchived kind key) s := by
  simp [moveToLive, livePresent, archivePresent, absent, and_assoc]

/-- A content with an unknown role, which is that of a user, does not pass. -/
theorem stops_checkContent_of_unknown {content : Content kind}
    (unknown : ¬ Content.HasKnownRole kind content)
    : s.Stops (checkContent kind content)
        (.database (.checkViolated Kind.user.liveTable "users_role_check")) s := by
  cases kind with
  | user =>
      rw [Content.HasKnownRole] at unknown
      simp [checkContent, unknown]
  | _ => exact (unknown trivial).elim

/-- A user with an unknown role is not moved back. -/
theorem stops_moveToLive_of_unknown {row : ArchivedRow kind}
    (livePresent : s.tables.live kind = some live)
    (archivePresent : s.tables.archive kind = some archived) (found : archived.find? key = some row)
    (filled : Content.Filled kind row.content)
    (unknown : ¬ Content.HasKnownRole kind row.content)
    : s.Stops (moveToLive kind key)
        (.database (.checkViolated Kind.user.liveTable "users_role_check")) s := by
  have checked : s.Stops (checkLive kind (LiveRow.fresh row.content))
      (.database (.checkViolated Kind.user.liveTable "users_role_check")) s := by
    refine stops_bind_iff.mpr (.inr ⟨(), s, ?_, ?_⟩)
    · exact yields_checkFilled_iff.mpr ⟨filled.fresh, rfl⟩
    · exact stops_checkContent_of_unknown unknown
  simp [moveToLive, livePresent, archivePresent, found, checked, and_assoc]

/-- A row is not moved back if its key is taken among the live ones. -/
theorem stops_moveToLive_of_taken {row : ArchivedRow kind}
    (livePresent : s.tables.live kind = some live)
    (archivePresent : s.tables.archive kind = some archived) (found : archived.find? key = some row)
    (permitted : (LiveRow.fresh row.content).Permitted) (taken : live.contains key = true)
    : s.Stops (moveToLive kind key) (.database (.duplicateKey (primaryKey (.live kind)))) s := by
  simp [moveToLive, livePresent, archivePresent, found, permitted, taken, and_assoc]

end Parts

-----------------------------------------------------------------------------------------
-- Where a transition leads
-----------------------------------------------------------------------------------------

/-- (s.Decides now t outcome) holds if the transition t, made now on s, has the given outcome. If it
stops, it has drawn no number of the log.
-/
inductive Decides (s : Store) (now : Instant) (t : Transition) : Outcome → Prop
  | completes {after} (carried : s.Yields (t.carryOut now) (t.entry s.sequences.log now) after)
    : Decides s now t (.completed (t.entry s.sequences.log now))
  | stops {fault after} (stopped : s.Stops (t.carryOut now) fault after)
    (undrawn : after.sequences = s.sequences)
    : Decides s now t (.ofResult (.error fault))

namespace Decides

variable {fault : Fault} {t : Transition} {moved : Tables}

/-- A transition that stops at its move is decided by it. -/
theorem of_move (h : s.Stops (t.move now) fault s) : s.Decides now t (.ofResult (.error fault)) :=
  .stops (stops_bind_iff.mpr (.inl h)) rfl

/-- A transition that can be made is refused at its log entry if its reason cannot be stored. -/
theorem of_nul (moves : t.Moves now s.tables moved) (migrated : s.tables.Migrated)
    (nul : hasNul t.reason = true)
    : s.Decides now t (.refused .textWithNul) := by
  obtain ⟨rows, present⟩ := migrated.log
  have logged : moved.log = some rows := moves.log_eq.trans present
  have refused : { s with tables := moved : Store }.Stops (Log.record t now)
      (.database .textWithNul) { s with tables := moved } := by
    simp [Log.record, logged, nul, -bind_pure_comp]
  exact .stops (stops_bind_iff.mpr
    (.inr ⟨(), _, yields_move_iff.mpr ⟨moved, moves, rfl⟩, refused⟩)) rfl

/-- A transition that can be made is completed if its reason can be stored and the next number of the
log is free.
-/
theorem of_storable (moves : t.Moves now s.tables moved) (migrated : s.tables.Migrated)
    (free : s.HasFreeNumbers 1) (storable : hasNul t.reason = false)
    : s.Decides now t (.completed (t.entry s.sequences.log now)) := by
  obtain ⟨rows, present⟩ := migrated.log
  obtain ⟨drawable, unused⟩ := free.next present
  have recorded : { s with tables := moved : Store }.Yields (Log.record t now)
      (t.entry s.sequences.log now) _ :=
    yields_record_iff.mpr
      ⟨rows, moves.log_eq.trans present, storable, drawable, unused, rfl, rfl⟩
  exact .completes (yields_carryOut_iff.mpr ⟨moved, moves, recorded⟩)

/-- Archiving is decided by the guard of an owner, the reason, the live row and the archived one, in
this order.
-/
theorem of_archive (migrated : s.tables.Migrated) (free : s.HasFreeNumbers 1)
    : s.Decides now ⟨.archive, kind, key, actor, reason⟩
        (s.tables.ruling ⟨.archive, kind, key, actor, reason⟩
          (entry ⟨.archive, kind, key, actor, reason⟩ s.sequences.log now)) := by
  obtain ⟨owners, ownersPresent⟩ := migrated.live .petOwner
  obtain ⟨pets, petsPresent⟩ := migrated.live .pet
  obtain ⟨live, livePresent⟩ := migrated.live kind
  obtain ⟨archived, archivePresent⟩ := migrated.archive kind
  have active := Tables.activePets_eq petsPresent key
  rw [Tables.ruling]
  by_cases held : kind = .petOwner ∧ 0 < (s.tables.unflaggedPets key).ncard
  · obtain ⟨rfl, some⟩ := held
    rw [if_pos ⟨rfl, some⟩, ← active]
    rw [← active] at some
    have stopped : s.Stops (move ⟨.archive, .petOwner, key, actor, reason⟩ now)
        (.ownerHasPets key (activePets pets key)) s := by
      simp [move, checkPets, ownersPresent, petsPresent, some, and_assoc]
    exact of_move stopped
  rw [if_neg held]
  have letsGo : kind = .petOwner → s.tables.LetsGo key := by
    intro owner
    have none : (s.tables.unflaggedPets key).ncard = 0 :=
      Nat.eq_zero_of_not_pos fun some => held ⟨owner, some⟩
    exact ⟨⟨owners, ownersPresent⟩, pets, petsPresent, active.trans none⟩
  -- Past the guard, archiving stops where the move of its row stops.
  have guarded {fault : Fault} (h : s.Stops (moveToArchive kind key actor reason now) fault s)
      : s.Decides now ⟨.archive, kind, key, actor, reason⟩ (.ofResult (.error fault)) := by
    refine of_move ?_
    by_cases owner : kind = .petOwner
    · rw [move]
      dsimp only
      rw [if_pos owner]
      exact stops_bind_iff.mpr
        (.inr ⟨(), s, yields_checkPets_iff.mpr ⟨letsGo owner, rfl⟩, h⟩)
    · rw [move]
      dsimp only
      rwa [if_neg owner]
  by_cases nul : hasNul reason = true
  · rw [if_pos nul]
    exact guarded (stops_moveToArchive_of_nul livePresent archivePresent nul)
  rw [if_neg nul]
  rw [Bool.not_eq_true] at nul
  by_cases there : s.tables.IsLive kind key
  · rw [if_neg (not_not_intro there)]
    rw [Tables.isLive_iff_contains livePresent, Table.contains_iff] at there
    obtain ⟨row, found⟩ := there
    have filled := migrated.liveFilled kind key row
      ((Tables.liveRow?_of_live livePresent key).trans found)
    by_cases taken : s.tables.IsArchived kind key
    · rw [if_pos taken]
      rw [Tables.isArchived_iff_contains archivePresent] at taken
      exact guarded (stops_moveToArchive_of_taken livePresent archivePresent nul found filled taken)
    · rw [if_neg taken]
      rw [Tables.isArchived_iff_contains archivePresent, Bool.not_eq_true] at taken
      exact of_storable (.archive livePresent archivePresent nul found
        (filled.toArchive actor reason now) taken letsGo) migrated free nul
  · rw [if_pos there]
    rw [Tables.isLive_iff_contains livePresent, Table.contains_iff] at there
    refine guarded (stops_moveToArchive_of_absent livePresent archivePresent nul ?_)
    exact Option.eq_none_iff_forall_not_mem.mpr fun row found => there ⟨row, found⟩

/-- Restoring is decided by the archived row, the guard of a pet, the role of a user, the live row and
the reason, in this order.
-/
theorem of_restore (migrated : s.tables.Migrated) (free : s.HasFreeNumbers 1)
    : s.Decides now ⟨.restore, kind, key, actor, reason⟩
        (s.tables.ruling ⟨.restore, kind, key, actor, reason⟩
          (entry ⟨.restore, kind, key, actor, reason⟩ s.sequences.log now)) := by
  obtain ⟨owners, ownersPresent⟩ := migrated.live .petOwner
  obtain ⟨live, livePresent⟩ := migrated.live kind
  obtain ⟨archived, archivePresent⟩ := migrated.archive kind
  have same := Tables.archivedRow?_of_archive archivePresent key
  rw [Tables.ruling]
  -- Past the guard, restoring stops where the move of its row stops.
  have guarded {fault : Fault} (takesBack : kind = .pet → s.tables.TakesBack key)
      (h : s.Stops (moveToLive kind key) fault s)
      : s.Decides now ⟨.restore, kind, key, actor, reason⟩ (.ofResult (.error fault)) := by
    refine of_move ?_
    by_cases pet : kind = .pet
    · obtain rfl := pet
      exact stops_bind_iff.mpr
        (.inr ⟨(), s, yields_checkOwner_iff.mpr ⟨⟨archived, archivePresent⟩, takesBack rfl, rfl⟩, h⟩)
    · rw [move]
      dsimp only
      rwa [if_neg pet]
  cases found : archived.find? key with
  | none =>
      rw [same, found]
      by_cases pet : kind = .pet
      · obtain rfl := pet
        have stopped : s.Stops (move ⟨.restore, .pet, key, actor, reason⟩ now)
            (.notArchived .pet key) s := by
          simp [move, checkOwner, archivePresent, found, and_assoc]
        exact of_move stopped
      · exact guarded (fun h => (pet h).elim)
          (stops_moveToLive_of_absent livePresent archivePresent found)
  | some row =>
      have archivedRow := same.trans found
      have filled := migrated.archiveFilled kind key row archivedRow
      rw [archivedRow]
      dsimp only
      cases absent : s.tables.absentOwner? kind row.content with
      | some owner =>
          cases kind with
          | pet =>
              obtain ⟨owned, gone⟩ := Option.filter_eq_some_iff.mp absent
              rw [decide_eq_true_eq, Tables.isLive_iff_contains ownersPresent,
                Bool.not_eq_true] at gone
              have stopped : s.Stops (move ⟨.restore, .pet, key, actor, reason⟩ now)
                  (.ownerNotLive owner key) s := by
                simp [move, checkOwner, archivePresent, found, owned, ownersPresent, gone,
                  and_assoc]
              exact of_move stopped
          | user | adopter | petOwner | adoptionRequest | adoption => cases absent
      | none =>
          have takesBack : kind = .pet → s.tables.TakesBack key := by
            rintro rfl
            obtain ⟨owner, owned⟩ := filled.owned
            refine ⟨row, owner, archivedRow, owned, ?_⟩
            rw [Tables.absentOwner?, owned] at absent
            simpa [Option.filter] using absent
          by_cases known : Content.HasKnownRole kind row.content
          · rw [if_neg (not_not_intro known)]
            have permitted : (LiveRow.fresh row.content).Permitted := ⟨filled.fresh, known⟩
            by_cases taken : s.tables.IsLive kind key
            · rw [if_pos taken]
              rw [Tables.isLive_iff_contains livePresent] at taken
              exact guarded takesBack
                (stops_moveToLive_of_taken livePresent archivePresent found permitted taken)
            · rw [if_neg taken]
              rw [Tables.isLive_iff_contains livePresent, Bool.not_eq_true] at taken
              have moves : Moves now s.tables ⟨.restore, kind, key, actor, reason⟩ _ :=
                .restore livePresent archivePresent found permitted taken takesBack
              by_cases nul : hasNul reason = true
              · rw [if_pos nul]
                exact of_nul moves migrated nul
              · rw [if_neg nul]
                exact of_storable moves migrated free (Bool.not_eq_true _ ▸ nul)
          · rw [if_pos known]
            exact guarded takesBack
              (stops_moveToLive_of_unknown livePresent archivePresent found filled known)

/-- A permanent deletion is decided by the archived row, then by the reason. -/
theorem of_permanentDelete (migrated : s.tables.Migrated) (free : s.HasFreeNumbers 1)
    : s.Decides now ⟨.permanentDelete, kind, key, actor, reason⟩
        (s.tables.ruling ⟨.permanentDelete, kind, key, actor, reason⟩
          (entry ⟨.permanentDelete, kind, key, actor, reason⟩ s.sequences.log now)) := by
  obtain ⟨archived, archivePresent⟩ := migrated.archive kind
  rw [Tables.ruling]
  by_cases there : s.tables.IsArchived kind key
  · rw [if_neg (not_not_intro there)]
    rw [Tables.isArchived_iff_contains archivePresent] at there
    have moves : Moves now s.tables ⟨.permanentDelete, kind, key, actor, reason⟩ _ :=
      .permanentDelete archivePresent there
    by_cases nul : hasNul reason = true
    · rw [if_pos nul]
      exact of_nul moves migrated nul
    · rw [if_neg nul]
      exact of_storable moves migrated free (Bool.not_eq_true _ ▸ nul)
  · rw [if_pos there]
    rw [Tables.isArchived_iff_contains archivePresent, Bool.not_eq_true] at there
    have stopped : s.Stops (move ⟨.permanentDelete, kind, key, actor, reason⟩ now)
        (.notArchived kind key) s := by
      simp [move, removeArchived, archivePresent, there, and_assoc]
    exact of_move stopped

/-- On a store that the schema made, and whose next log number is free, a transition has the outcome
that the rows of the tables rule; by cases on its operation.
-/
theorem of_migrated (migrated : s.tables.Migrated) (free : s.HasFreeNumbers 1) (now : Instant)
    (t : Transition)
    : s.Decides now t (s.tables.ruling t (t.entry s.sequences.log now)) := by
  obtain ⟨operation, kind, key, actor, reason⟩ := t
  cases operation with
  | archive => exact of_archive migrated free
  | restore => exact of_restore migrated free
  | permanentDelete => exact of_permanentDelete migrated free

end Decides

end Store

end AdoptionRecords
