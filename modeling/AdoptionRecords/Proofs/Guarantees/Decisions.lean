import AdoptionRecords.Proofs.Guarantees.AllOrNothing
import AdoptionRecords.Proofs.Store.Rulings

/-! What becomes of a transition that is asked of a database. Its outcome is the one that the rows of
the tables rule; if it is completed it has changed its own row and added its log entry, and nothing
else, and otherwise it has changed nothing at all.
-/

namespace AdoptionRecords

open Calendar

namespace Database

variable {d : Database} {t : Transition}

/-- A transition whose outcome the store decides is completed, or leaves the store as it is. -/
theorem run_transition_of_decides {outcome : Outcome} (reachable : d.reachable = true)
    (h : d.store.Decides d.now t outcome)
    : ((transition t).run d).1 = outcome
      ∧ (outcome.isCompleted = true → d.store.Completed d.now t ((transition t).run d).2.store)
      ∧ (outcome.isCompleted = false → ((transition t).run d).2.store = d.store) := by
  cases h with
  | @completes after carried =>
      obtain ⟨outcome, store⟩ := run_transition_of_yields reachable carried
      rw [store]
      exact ⟨outcome, fun _ => (Store.Completed.of_yields carried).1, nofun⟩
  | @stops fault after stopped undrawn =>
      obtain ⟨outcome, store⟩ := run_transition_of_stops reachable stopped
      have uncompleted := (isCompleted_ofResult (.error fault)).mpr ⟨fault, rfl⟩
      rw [store, undrawn, uncompleted]
      exact ⟨outcome, nofun, fun _ => rfl⟩

/-- The decision and the effect of a transition, on any database that can be reached, whose tables are
those of the schema and whose next log number is free. The outcome is the one that the rows rule.
If it is completed, the store has changed in the transition's own row and by its log entry only;
otherwise it has not changed.
-/
theorem transition_decided (reachable : d.reachable = true) (migrated : d.store.tables.Migrated)
    (free : d.store.HasFreeNumbers 1) (t : Transition)
    : let run := (transition t).run d
      run.1 = d.store.tables.ruling t (t.entry d.store.sequences.log d.now)
      ∧ (run.1.isCompleted = true → d.store.Completed d.now t run.2.store)
      ∧ (run.1.isCompleted = false → run.2.store = d.store) := by
  intro run
  obtain ⟨outcome, completed, failed⟩ := run_transition_of_decides reachable
    (.of_migrated migrated free d.now t)
  rw [← outcome] at completed failed
  exact ⟨outcome, completed, failed⟩

/-- An owner with a pet is not archived, which leaves the store as it is; the pet is archived, which
moves its row; and then the pet cannot be archived again, since it is not live.
-/
theorem transition_decided_of_pet
    : let d := (fresh .epoch).after [
        .create .petOwner (PetOwnerContent.ofName "Ann"),
        .create .pet (PetContent.ofOwner 1 "Rex")]
      let owner : Transition := ⟨.archive, .petOwner, 1, some 7, "moved away"⟩
      let pet : Transition := ⟨.archive, .pet, 1, some 7, "moved away"⟩
      let moved := ((transition pet).run d).2
      ((transition owner).run d).1 = .blocked "pet owner 1 has 1 active pet(s)"
      ∧ ((transition owner).run d).2.store = d.store
      ∧ ((transition pet).run d).1 = .completed (pet.entry 1 .epoch)
      ∧ d.store.Completed d.now pet moved.store
      ∧ ((transition pet).run moved).1 = .notFound
      ∧ ((transition pet).run moved).2.store = moved.store := by
  intro d owner pet moved
  have first := transition_decided (d := d) (by decide +kernel) (by decide +kernel)
    (by decide +kernel)
  have second := transition_decided (d := moved) (by decide +kernel) (by decide +kernel)
    (by decide +kernel) pet
  have blocked : ((transition owner).run d).1 = .blocked "pet owner 1 has 1 active pet(s)" := by
    decide +kernel
  have completed : ((transition pet).run d).1 = .completed (pet.entry 1 .epoch) := by
    decide +kernel
  have absent : ((transition pet).run moved).1 = .notFound := by
    decide +kernel
  refine ⟨blocked, (first owner).2.2 ?_, completed, (first pet).2.1 ?_, absent, second.2.2 ?_⟩
  · rw [blocked]
    rfl
  · rw [completed]
    rfl
  · rw [absent]
    rfl

end Database

end AdoptionRecords
