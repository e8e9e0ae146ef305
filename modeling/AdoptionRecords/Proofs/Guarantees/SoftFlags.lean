import AdoptionRecords.Proofs.Guarantees.AllOrNothing
import AdoptionRecords.Proofs.Guarantees.OwnerGuard
import AdoptionRecords.Proofs.Store.Admitting

/-! Flags of pets and the guard of their owners. A flag that is set never breaks the guard. One
that is cleared breaks it exactly if the owner of the pet is archived: nothing asks for the owner
then, other than when a pet is restored.
-/

namespace AdoptionRecords

open Calendar

namespace Tables

/-- A pet is a flagged orphan if it is live and flagged, and its owner is archived. -/
def IsFlaggedOrphan (t : Tables) (pet : Int) : Prop :=
  ∃ (row : LiveRow .pet) (owner : Int), t.liveRow? .pet pet = some row ∧ row.archived = some true
    ∧ (row.content : PetContent).owner = some owner ∧ t.IsArchived .petOwner owner

variable {t : Tables} {pets : Table (LiveRow .pet)} {pet : Int} {row : LiveRow .pet}

/-- Where the guard holds, clearing the flag of a pet keeps it exactly if the owner is not
archived.
-/
theorem Guarded.unflag_iff (h : t.Guarded) (present : t.live .pet = some pets)
    (found : pets.find? pet = some row) (flagged : row.archived = some true)
    : (t.setLive .pet (pets.insert pet row.unflag)).Guarded ↔ ¬ t.IsFlaggedOrphan pet := by
  have put (other : Int)
      : (t.setLive .pet (pets.insert pet row.unflag)).liveRow? .pet other
        = if other = pet then some row.unflag else t.liveRow? .pet other := by
    rw [liveRow?_setLive_same, Table.find?_insert, liveRow?_of_live present]
  constructor
  · rintro guarded ⟨again, owner, found', -, owned, archived⟩
    rw [liveRow?_of_live present, found] at found'
    cases found'
    exact guarded pet row.unflag owner ((put pet).trans (if_pos rfl)) rfl owned archived
  · intro housed other otherRow owner found' active owned archived
    rw [put] at found'
    by_cases same : other = pet
    · rw [if_pos same] at found'
      cases found'
      exact housed
        ⟨row, owner, (liveRow?_of_live present pet).trans found, flagged, owned, archived⟩
    · rw [if_neg same] at found'
      exact h other otherRow owner found' active owned archived

end Tables

-----------------------------------------------------------------------------------------
-- One call
-----------------------------------------------------------------------------------------

namespace Database

variable {d : Database} {pet : Int}

/-- A unit of work that turns the flag of a pet changes the row of that pet and answers so, or it
answers something else and changes nothing.
-/
theorem perform_turn_cases (work : Instant → Work Bool) {before : Bool}
    {change : LiveRow .pet → LiveRow .pet} (turns : work d.now = Flag.turn pet before change)
    : let run := (perform work).run d
      (run.1 ≠ .ok true ∧ run.2 = d)
      ∨ run.1 = .ok true ∧ d.reachable = true
        ∧ ∃ pets row, d.store.tables.live .pet = some pets
          ∧ pets.find? pet = some row ∧ row.archived = some before ∧ (change row).Permitted
          ∧ run.2 = { d with
              store.tables := d.store.tables.setLive .pet (pets.insert pet (change row)) } := by
  intro run
  simp only [run, run_perform]
  by_cases reachable : d.reachable = true
  · rw [if_pos reachable]
    rcases d.store.yields_or_stops (work d.now) with ⟨turned, after, h⟩ | ⟨fault, after, h⟩
    · rw [h.perform_eq]
      rw [turns, Store.yields_turn_iff] at h
      obtain ⟨pets, present, ⟨row, found, same, permitted, rfl, rfl⟩ | ⟨-, rfl, rfl⟩⟩ := h
      · exact .inr ⟨rfl, reachable, pets, row, present, found, same, permitted, rfl⟩
      · exact .inl ⟨by simp, rfl⟩
    · rw [h.perform_eq]
      rw [turns] at h
      rw [Store.eq_of_stops_turn h]
      exact .inl ⟨nofun, rfl⟩
  · rw [if_neg reachable]
    exact .inl ⟨nofun, rfl⟩

/-- The flag of a live pet is turned if it is as it was thought to be and the rules of its table
permit the change, on a database that can be reached.
-/
theorem perform_turn_of_found (work : Instant → Work Bool) {before : Bool}
    {change : LiveRow .pet → LiveRow .pet} (turns : work d.now = Flag.turn pet before change)
    {pets : Table (LiveRow .pet)} {row : LiveRow .pet} (reachable : d.reachable = true)
    (present : d.store.tables.live .pet = some pets) (found : pets.find? pet = some row)
    (same : row.archived = some before) (permitted : (change row).Permitted)
    : (perform work).run d =
      (.ok true, { d with
        store.tables := d.store.tables.setLive .pet (pets.insert pet (change row)) }) := by
  have carried := Store.yields_turn_iff.mpr
    ⟨pets, present, .inl ⟨row, found, same, permitted, rfl, rfl⟩⟩
  rw [← turns] at carried
  rw [run_perform, if_pos reachable, carried.perform_eq]

/-- The flag of a pet is turned exactly if the pet is live and its flag is as it was thought to be,
on a database that can be reached whose tables are those of the schema.
-/
theorem perform_turn_eq_true_iff (work : Instant → Work Bool) {before : Bool}
    {change : LiveRow .pet → LiveRow .pet} (turns : work d.now = Flag.turn pet before change)
    (kept : ∀ row, (change row).content = row.content)
    (flagged : ∀ row, (change row).archived ≠ none)
    (reachable : d.reachable = true) (migrated : d.store.tables.Migrated)
    : ((perform work).run d).1 = .ok true
      ↔ ∃ row : LiveRow .pet, d.store.tables.liveRow? .pet pet = some row
        ∧ row.archived = some before := by
  constructor
  · intro done
    rcases perform_turn_cases work turns
      with ⟨refused, -⟩ | ⟨-, -, pets, row, present, found, same, -⟩
    · exact (refused done).elim
    · exact ⟨row, (Tables.liveRow?_of_live present pet).trans found, same⟩
  · rintro ⟨row, found, same⟩
    have permitted : (change row).Permitted := by
      refine LiveRow.permitted_iff.mpr ⟨?_, flagged row, trivial⟩
      rw [kept]
      exact migrated.liveFilled .pet pet row found
    obtain ⟨pets, present⟩ := migrated.live .pet
    rw [Tables.liveRow?_of_live present] at found
    rw [perform_turn_of_found work turns reachable present found same permitted]

/-- The guard outlasts the flagging of a pet, whatever is answered. -/
theorem guarded_flagPet (guarded : d.store.tables.Guarded) (pet : Int)
    : ((flagPet pet).run d).2.store.tables.Guarded := by
  rcases perform_turn_cases (fun now => Flag.setPet pet now)
    (Flag.setPet_eq_turn pet d.now) with ⟨-, same⟩ | ⟨-, -, pets, row, present, found, -, -, after⟩
  · rwa [flagPet, same]
  · rw [flagPet, after, Table.insert_eq_map (·.flag d.now) found,
      ← Amendment.apply_flag_key d.now pet]
    exact guarded.flag present _

/-- The guard outlasts the clearing of a pet's flag, unless that is done to a flagged orphan. -/
theorem guarded_unflagPet_iff (guarded : d.store.tables.Guarded) (pet : Int)
    : ((unflagPet pet).run d).2.store.tables.Guarded
      ↔ ¬ (((unflagPet pet).run d).1 = .ok true ∧ d.store.tables.IsFlaggedOrphan pet) := by
  rcases perform_turn_cases (d := d) (fun _ => Flag.clearPet pet) (Flag.clearPet_eq_turn pet)
    with ⟨refused, same⟩ | ⟨done, -, pets, row, present, found, flagged, -, after⟩
  · rw [unflagPet, same]
    exact iff_of_true guarded fun h => refused h.1
  · rw [unflagPet, after, guarded.unflag_iff present found flagged, done]
    simp

/-- A pet's flag is set exactly if the pet is live and not flagged, on a database that can be
reached whose tables are those of the schema.
-/
theorem flagPet_eq_true_iff (reachable : d.reachable = true) (migrated : d.store.tables.Migrated)
    : ((flagPet pet).run d).1 = .ok true
      ↔ ∃ row : LiveRow .pet, d.store.tables.liveRow? .pet pet = some row
        ∧ row.archived = some false :=
  perform_turn_eq_true_iff (fun now => Flag.setPet pet now) (Flag.setPet_eq_turn pet d.now)
    (fun _ => rfl) (fun _ => Option.some_ne_none _) reachable migrated

/-- A pet's flag is cleared exactly if the pet is live and flagged. -/
theorem unflagPet_eq_true_iff (reachable : d.reachable = true) (migrated : d.store.tables.Migrated)
    : ((unflagPet pet).run d).1 = .ok true
      ↔ ∃ row : LiveRow .pet, d.store.tables.liveRow? .pet pet = some row
        ∧ row.archived = some true :=
  perform_turn_eq_true_iff (fun _ => Flag.clearPet pet) (Flag.clearPet_eq_turn pet)
    (fun _ => rfl) (fun _ => Option.some_ne_none _) reachable migrated

end Database

-----------------------------------------------------------------------------------------
-- Runs of requests
-----------------------------------------------------------------------------------------

/-- A request spares orphans if it respects the guard, or clears the flag of a pet that is no
flagged orphan.
-/
def Request.SparesOrphans (d : Database) (r : Request) : Prop :=
  r.RespectsGuard d ∨ ∃ pet, r = .unflagPet pet ∧ ¬ d.store.tables.IsFlaggedOrphan pet

namespace Database

variable {d : Database}

/-- The guard outlasts requests that spare orphans, by induction on them. -/
theorem guarded_after {past : List Deed} {requests : List Request} (located : Located past d.store)
    (guarded : d.store.tables.Guarded) (spares : d.Throughout Request.SparesOrphans requests)
    : (d.after requests).store.tables.Guarded := by
  induction requests generalizing d past with
  | nil => exact guarded
  | cons r rest ih =>
      obtain ⟨own, spares⟩ := spares
      refine ih (located.run (r.runs d)) ?_ spares
      rcases own with respects | ⟨pet, rfl, housed⟩
      · have run := (r.runs d).preserves (fun past s => Located past s ∧ s.tables.Guarded)
          (fun past s after held tables sequences =>
            ⟨held.1.stay tables sequences, by rw [tables]; exact held.2⟩)
          (fun past s c after held caused made =>
            ⟨held.1.step made, held.2.step held.1 made (respects.of_causes caused)⟩)
          ⟨located, guarded⟩
        exact run.2
      · exact (guarded_unflagPet_iff guarded pet).mpr fun orphaned => housed orphaned.2

/-- Flags and the guard, on any database where the guard holds. A flag that is set keeps the
guard, whatever is answered. Clearing one breaks it exactly if that is answered as done and the
pet was a flagged orphan; and it is done to every live pet that is flagged.
-/
theorem flags_and_guard (guarded : d.store.tables.Guarded) (pet : Int)
    : ((flagPet pet).run d).2.store.tables.Guarded
      ∧ (((unflagPet pet).run d).2.store.tables.Guarded
        ↔ ¬ (((unflagPet pet).run d).1 = .ok true ∧ d.store.tables.IsFlaggedOrphan pet))
      ∧ (d.reachable = true → d.store.tables.Migrated →
        (((unflagPet pet).run d).1 = .ok true
          ↔ ∃ row : LiveRow .pet, d.store.tables.liveRow? .pet pet = some row
            ∧ row.archived = some true)) :=
  ⟨guarded_flagPet guarded pet, guarded_unflagPet_iff guarded pet, unflagPet_eq_true_iff⟩

/-- The flag of a pet is cleared while the owner is live: the guard holds before and after. -/
theorem flags_and_guard_of_live_owner
    : let d := (fresh .epoch).after [
        .create .petOwner (PetOwnerContent.ofName "Ann"),
        .create .pet (PetContent.ofOwner 1 "Rex"),
        .flagPet 1]
      ((unflagPet 1).run d).1 = .ok true
      ∧ d.store.tables.Guarded
      ∧ ((unflagPet 1).run d).2.store.tables.Guarded := by
  intro d
  have guarded : d.store.tables.Guarded := by
    refine guarded_after (.fresh .epoch) (.fresh .epoch)
      ⟨.inl trivial, .inl ?_, .inl trivial, trivial⟩
    intro owner owned
    cases owned
    decide +kernel
  obtain ⟨-, cleared, done⟩ := flags_and_guard guarded 1
  let row : LiveRow .pet := LiveRow.flag (.fresh (PetContent.ofOwner 1 "Rex")) .epoch
  have found : d.store.tables.liveRow? .pet 1 = some row := by
    decide +kernel
  have live : ¬ d.store.tables.IsArchived .petOwner 1 := by
    decide +kernel
  refine ⟨(done (by decide +kernel) (by decide +kernel)).mpr ⟨row, found, rfl⟩, guarded,
    cleared.mpr ?_⟩
  rintro ⟨-, row', owner, found', -, owned, archived⟩
  cases found.symm.trans found'
  cases owned
  exact live archived

/-- An owner is archived while the only pet is flagged, and then the flag is cleared: the guard
held before, and the pet of the archived owner is active afterwards.
-/
theorem unflagged_under_archived_owner
    : let d := (fresh .epoch).after [
        .create .petOwner (PetOwnerContent.ofName "Ann"),
        .create .pet (PetContent.ofOwner 1 "Rex"),
        .flagPet 1,
        .transition ⟨.archive, .petOwner, 1, none, "moved away"⟩]
      d.store.tables.Guarded ∧ ¬ ((unflagPet 1).run d).2.store.tables.Guarded := by
  intro d
  have guarded : d.store.tables.Guarded := by
    refine guarded_after (.fresh .epoch) (.fresh .epoch)
      ⟨.inl trivial, .inl ?_, .inl trivial, .inl trivial, trivial⟩
    intro owner owned
    cases owned
    decide +kernel
  let row : LiveRow .pet := LiveRow.flag (.fresh (PetContent.ofOwner 1 "Rex")) .epoch
  have orphan : d.store.tables.IsFlaggedOrphan 1 :=
    ⟨row, 1, by decide +kernel, rfl, rfl, by decide +kernel⟩
  refine ⟨guarded, ?_⟩
  rw [guarded_unflagPet_iff guarded, not_not]
  exact ⟨by decide +kernel, orphan⟩

end Database

end AdoptionRecords
