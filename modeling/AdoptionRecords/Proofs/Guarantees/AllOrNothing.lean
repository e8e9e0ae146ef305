import AdoptionRecords.Proofs.History.Requests

/-! Calls do all or nothing. A transition or an update of a user that is not answered as done leaves
every table as it was, also when it stopped after rows were changed; it may have drawn keys.
-/

namespace AdoptionRecords

open Calendar Text

namespace Database

/-- A database is untouched by a call if the call changed nothing of it but the keys drawn next,
which may have ascended, and what was announced.
-/
structure Untouched (d after : Database) : Prop where
  tables : after.store.tables = d.store.tables
  sequences : d.store.sequences ≤ after.store.sequences
  surroundings : after = { d with store := after.store, emitted := after.emitted }

variable {d : Database}

/-- A unit of work that fails leaves the tables as they were. -/
theorem tables_perform_of_error {α : Type} {work : Instant → Work α} {fault : Fault}
    (h : ((perform work).run d).1 = .error fault)
    : ((perform work).run d).2.store.tables = d.store.tables := by
  rw [run_perform] at h ⊢
  by_cases reachable : d.reachable = true
  · rw [if_pos reachable] at h ⊢
    exact Store.tables_perform_of_error (Prod.ext h rfl)
  · rw [if_neg reachable]

/-- A unit of work that stops, on a store that can be reached, fails with the same fault. -/
theorem perform_of_stops {α : Type} {work : Instant → Work α} {fault : Fault} {after : Store}
    (reachable : d.reachable = true) (h : d.store.Stops (work d.now) fault after)
    : ((perform work).run d).1 = .error fault := by
  rw [run_perform, if_pos reachable, h.perform_eq]

/-- Only a unit of work that yields an entry is told as a completed transition. -/
theorem isCompleted_ofResult (result : Except Fault LogEntry)
    : (Outcome.ofResult result).isCompleted = false ↔ ∃ fault, result = .error fault := by
  cases result with
  | ok entry => simp [Outcome.ofResult, Outcome.isCompleted]
  | error fault => cases h : fault.category <;> simp [Outcome.ofResult, h, Outcome.isCompleted]

/-- A fault that comes from the store makes a transition fail. -/
theorem ofResult_of_spoils {fault : Fault} (h : fault.spoils = true)
    : Outcome.ofResult (.error fault) = .failed fault.message := by
  cases fault with
  | database cause => rfl
  | _ => simp [Fault.spoils] at h

/-- A transition that is not completed leaves the database untouched. -/
theorem untouched_of_transition {t : Transition}
    (h : ((transition t).run d).1.isCompleted = false)
    : d.Untouched ((transition t).run d).2 := by
  have run := runs_transition d t
  rw [outcome_transition, isCompleted_ofResult] at h
  obtain ⟨fault, failed⟩ := h
  refine ⟨?_, run.sequences_le, ?_⟩
  · rw [transition_eq]
    exact tables_perform_of_error failed
  · rw [transition_eq]

/-- An update of a user that fails leaves the database untouched. -/
theorem untouched_of_updateUser {u : UserUpdate} {fault : Fault}
    (h : ((updateUser u).run d).1 = .error fault)
    : d.Untouched ((updateUser u).run d).2 := by
  have run := runs_updateUser d u
  obtain ⟨answer, same⟩ := run_updateUser d u
  rw [answer] at h
  refine ⟨?_, run.sequences_le, ?_⟩
  · rw [same]
    cases result : ((perform u.carryOut).run d).1 with
    | ok found =>
        rw [result] at h
        cases h
    | error fault => exact tables_perform_of_error result
  · rw [same]

/-- The log of a store takes no further entry with a reason: the log is missing, the store cannot
hold the reason, no number is left, or the next number is taken.
-/
def LogRefuses (s : Store) (reason : String) : Prop :=
  s.tables.log = none ∨ hasNul reason = true ∨ Work.greatestLogNumber < s.sequences.log
  ∨ ∃ rows, s.tables.log = some rows ∧ rows.contains s.sequences.log = true

/-- A transition that could be made fails if the log takes no entry of it: it stops after its
move.
-/
theorem failed_of_logRefuses {t : Transition} {moved : Tables} (reachable : d.reachable = true)
    (moves : t.Moves d.now d.store.tables moved) (refuses : LogRefuses d.store t.reason)
    : ∃ message, ((transition t).run d).1 = .failed message := by
  rcases { d.store with tables := moved : Store }.yields_or_stops (Log.record t d.now)
    with ⟨entry, after, h⟩ | ⟨fault, after, h⟩
  · obtain ⟨rows, present, storable, bound, free, -, -⟩ := Store.yields_record_iff.mp h
    rw [moves.log_eq] at present
    rcases refuses with missing | unstorable | exhausted | ⟨rows', present', taken⟩
    · rw [missing] at present
      cases present
    · rw [unstorable] at storable
      cases storable
    · exact (Int.not_le.mpr exhausted bound).elim
    · rw [present] at present'
      cases present'
      rw [taken] at free
      cases free
  · have stops : d.store.Stops (t.carryOut d.now) fault after := by
      simp only [Transition.carryOut, Store.stops_bind_iff, Store.yields_move_iff]
      exact .inr ⟨(), _, ⟨moved, moves, rfl⟩, h⟩
    refine ⟨fault.message, ?_⟩
    rw [outcome_transition, perform_of_stops reachable stops, ofResult_of_spoils h.spoils_of_record]

/-- An update of a user fails if the new profile cannot be created: it stops after the user's row
was replaced and the old profile flagged.
-/
theorem error_of_profile_refused {u : UserUpdate} {oldName : String} {role : Role}
    {old new : Profile} {flaggedRows : Nat} {replaced flagged stopped : Store} {fault : Fault}
    (reachable : d.reachable = true)
    (hr : d.store.Yields u.replace (oldName, role) replaced)
    (planOld : (ProfilePlan.ofRoles role u.role).flagOld = some old)
    (hf : replaced.Yields (Flag.setProfiles old oldName d.now) flaggedRows flagged)
    (planNew : (ProfilePlan.ofRoles role u.role).createNew = some new)
    (hc : flagged.Stops (Work.createLive new.kind (u.newProfile new)) fault stopped)
    : ((updateUser u).run d).1 = .error fault := by
  have stops : d.store.Stops (u.carryOut d.now) fault stopped := by
    simp only [UserUpdate.carryOut_eq, Store.stops_bind_iff, Store.yields_bind_iff,
      Store.yields_forM_option_iff, Store.stops_forM_option_iff, Store.yields_pure_iff]
    exact .inr ⟨(oldName, role), replaced, hr, .inr ⟨(), flagged,
      .inl ⟨old, planOld, flaggedRows, flagged, hf, trivial, rfl⟩,
      .inl ⟨new, planNew, .inl hc⟩⟩⟩
  rw [(run_updateUser d u).1, perform_of_stops reachable stops]
  rfl

/-- Calls do all or nothing, on any store: a transition that is not completed, the deletion of a
user included, and an update of a user that fails leave every table as it was. This holds also of
transitions that fail only when their log entry is refused, after the row was moved, and of updates
that fail only when the new profile is refused, after the user was replaced and the old profile
flagged.
-/
theorem all_or_nothing (d : Database)
    : (∀ t, ((transition t).run d).1.isCompleted = false → d.Untouched ((transition t).run d).2)
      ∧ (∀ user, ((deleteUser user).run d).1.isCompleted = false
        → d.Untouched ((deleteUser user).run d).2)
      ∧ (∀ u fault, ((updateUser u).run d).1 = .error fault
        → d.Untouched ((updateUser u).run d).2)
      ∧ (∀ t moved, d.reachable = true → t.Moves d.now d.store.tables moved
        → LogRefuses d.store t.reason
        → (∃ message, ((transition t).run d).1 = .failed message)
          ∧ d.Untouched ((transition t).run d).2)
      ∧ ∀ u oldName role old new flaggedRows replaced flagged stopped fault,
          d.reachable = true → d.store.Yields u.replace (oldName, role) replaced
          → (ProfilePlan.ofRoles role u.role).flagOld = some old
          → replaced.Yields (Flag.setProfiles old oldName d.now) flaggedRows flagged
          → (ProfilePlan.ofRoles role u.role).createNew = some new
          → flagged.Stops (Work.createLive new.kind (u.newProfile new)) fault stopped
          → ((updateUser u).run d).1 = .error fault ∧ d.Untouched ((updateUser u).run d).2 := by
  refine ⟨fun _ => untouched_of_transition, fun _ => untouched_of_transition,
    fun _ _ => untouched_of_updateUser, ?_, ?_⟩
  · intro t moved reachable moves refuses
    obtain ⟨message, failed⟩ := failed_of_logRefuses reachable moves refuses
    exact ⟨⟨message, failed⟩, untouched_of_transition (by rw [failed]; rfl)⟩
  · intro u oldName role old new flaggedRows replaced flagged stopped fault reachable hr planOld hf
      planNew hc
    have failed := error_of_profile_refused reachable hr planOld hf planNew hc
    exact ⟨failed, untouched_of_updateUser failed⟩

/-- An archived pet owner could be restored, but not with a reason that the log cannot hold; so the
owner stays archived. An adopter cannot become a pet owner once the keys of pet owners are used up:
the adopter's profile, which was flagged by then, is not flagged in the end.
-/
theorem all_or_nothing_of_refusals
    : let d := (Database.fresh .epoch).after [
        .create .petOwner (PetOwnerContent.ofName "Ann"),
        .transition ⟨.archive, .petOwner, 1, none, "moved away"⟩,
        .create .user (UserContent.ofName "Bob" "secret" .adopter),
        .create .adopter (AdopterContent.ofName "Bob")]
      let t : Transition := ⟨.restore, .petOwner, 1, none, "\x00"⟩
      let usedUp := { d with
        store := d.store.setSequence (.live .petOwner) (Work.greatestLiveKey + 1) }
      let u : UserUpdate := ⟨1, "Bob", none, "secret", .petOwner⟩
      ((∃ moved, t.Moves d.now d.store.tables moved)
        ∧ (∃ message, ((transition t).run d).1 = .failed message)
        ∧ d.Untouched ((transition t).run d).2)
      ∧ (∃ fault, ((updateUser u).run usedUp).1 = .error fault)
      ∧ usedUp.Untouched ((updateUser u).run usedUp).2 := by
  intro d t usedUp u
  refine ⟨?_, ?_⟩
  · have yields : d.store.Yields (t.move d.now) () _ :=
      Store.yields_of_toOption (by decide +kernel)
    obtain ⟨moved, moves, -⟩ := Store.yields_move_iff.mp yields
    exact ⟨⟨moved, moves⟩, (all_or_nothing d).2.2.2.1 t moved (by decide +kernel) moves
      (.inr (.inl (by decide +kernel)))⟩
  · let replaced := (usedUp.store.run u.replace).2
    let flagged := (replaced.run (Flag.setProfiles .adopter "Bob" usedUp.now)).2
    have replaces : usedUp.store.Yields u.replace ("Bob", .adopter) replaced :=
      Store.yields_of_toOption (by decide +kernel)
    have flags : replaced.Yields (Flag.setProfiles .adopter "Bob" usedUp.now) 1 flagged :=
      Store.yields_of_toOption (by decide +kernel)
    have refused : (flagged.run (Work.createLive .petOwner (u.newProfile .petOwner))).1.toOption
        = none := by
      decide +kernel
    obtain ⟨fault, stops⟩ := Store.stops_of_toOption refused
    have undone := (all_or_nothing usedUp).2.2.2.2 u "Bob" .adopter .adopter .petOwner 1 replaced
      flagged _ fault (by decide +kernel) replaces (by decide) flags (by decide) stops
    exact ⟨⟨fault, undone.1⟩, undone.2⟩

end Database

end AdoptionRecords
