import AdoptionRecords.Proofs.Guarantees.UserUpdates
import AdoptionRecords.Proofs.History.Announcements

/-! What the report of an update tells of the profiles. It tells what the roles ask for, not how
many rows there were: a profile that is told to be flagged or synced is so only if there is one
with the username.
-/

namespace AdoptionRecords

open Calendar

namespace RoleChange

/-- The kind of profile that a report tells to be flagged. -/
def flagged? : RoleChange → Option Kind
  | unchanged _ => none
  | changed _ _ flagged _ => flagged

/-- The kind of profile that a report tells to be synced. -/
def synced? : RoleChange → Option Kind
  | unchanged synced => synced
  | changed .. => none

/-- The kind of profile that a report tells to be created. -/
def created? : RoleChange → Option Kind
  | unchanged _ => none
  | changed _ _ _ created => created

variable {before after : Role}

/-- A report tells what the plan asks for. -/
theorem flagged?_ofPlan
    : (ofPlan before after (.ofRoles before after)).flagged?
      = (ProfilePlan.ofRoles before after).flagOld.map Profile.kind := by
  rw [ofPlan, ProfilePlan.ofRoles]
  split <;> rfl

theorem synced?_ofPlan
    : (ofPlan before after (.ofRoles before after)).synced?
      = (ProfilePlan.ofRoles before after).sync.map Profile.kind := by
  rw [ofPlan, ProfilePlan.ofRoles]
  split <;> rfl

theorem created?_ofPlan
    : (ofPlan before after (.ofRoles before after)).created?
      = (ProfilePlan.ofRoles before after).createNew.map Profile.kind := by
  rw [ofPlan, ProfilePlan.ofRoles]
  split <;> rfl

end RoleChange

theorem Profile.map_kind_eq_some_iff {found : Option Profile} {profile : Profile}
    : found.map Profile.kind = some profile.kind ↔ found = some profile := by
  rw [Option.map_eq_some_iff]
  constructor
  · rintro ⟨other, rfl, same⟩
    rw [kind_injective same]
  · rintro rfl
    exact ⟨profile, rfl, rfl⟩

/-- An update creates a profile exactly if a row is live after it that was not live before. -/
theorem UserUpdate.Effect.creates_nonempty_iff {u : UserUpdate} {now : Instant} {name : String}
    {role : Role} {before after : Store} {profile : Profile}
    (h : u.Effect now name role before after)
    : (u.creates before role profile).Nonempty
      ↔ ∃ key, ¬ before.tables.IsLive profile.kind key ∧ after.tables.IsLive profile.kind key := by
  constructor
  · rintro ⟨key, new⟩
    obtain ⟨content, free, put, -⟩ := h.created profile key new
    exact ⟨key, by simp [Tables.IsLive, free], by simp [Tables.IsLive, put]⟩
  · rintro ⟨key, absent, live⟩
    by_contra none
    rw [Tables.IsLive, Option.not_isSome_iff_eq_none] at absent
    have uncreated : key ∉ u.creates before role profile := fun new => none ⟨key, new⟩
    have unflagged : key ∉ u.flags before name role profile := by
      rintro ⟨-, -, row, found, -⟩
      rw [absent] at found
      cases found
    have unsynced : key ∉ u.syncs before name role profile := by
      rintro ⟨-, -, row, found, -⟩
      rw [absent] at found
      cases found
    rw [Tables.IsLive, h.kept profile key unflagged unsynced uncreated, absent] at live
    cases live

namespace Database

variable {d : Database} {u : UserUpdate} {change : RoleChange}

/-- What the report of an update tells, on any database. A profile is created exactly if the
report tells so. Profiles are flagged or synced exactly if the report tells so and there are any
with the username that the user had. It is announced that profiles were flagged exactly if the
report tells so.
-/
theorem report_exact (h : ((updateUser u).run d).1 = .ok change)
    : let after := ((updateUser u).run d).2
      ∃ name role, u.Effect d.now name role d.store after.store
        ∧ after.emitted
          = d.emitted ++ change.flagged?.toList.map
              (fun kind => .enclose d.clock (.profileFlagged kind name))
        ∧ (∀ kind, change.flagged? = some kind ∨ change.synced? = some kind
            ∨ change.created? = some kind → kind.IsOfProfile)
        ∧ ∀ profile : Profile,
            ((u.flags d.store name role profile).Nonempty
              ↔ change.flagged? = some profile.kind
                ∧ (d.store.tables.profiles profile name).Nonempty)
            ∧ ((u.syncs d.store name role profile).Nonempty
              ↔ change.synced? = some profile.kind
                ∧ (d.store.tables.activeProfiles profile name).Nonempty)
            ∧ (change.created? = some profile.kind
              ↔ ∃ key, ¬ d.store.tables.IsLive profile.kind key
                ∧ after.store.tables.IsLive profile.kind key) := by
  intro after
  obtain ⟨reachable, name, role, rfl, carried⟩ := yields_of_updateUser h
  have effect := carried.effect
  rw [RoleChange.flagged?_ofPlan, RoleChange.synced?_ofPlan, RoleChange.created?_ofPlan]
  refine ⟨name, role, effect, ?_, ?_, ?_⟩
  · rw [emitted_updateUser, run_perform, if_pos reachable, carried.perform_eq, Option.toList_map,
      List.map_map, List.map_map]
    rfl
  · rintro kind (told | told | told)
    all_goals
      obtain ⟨profile, -, rfl⟩ := Option.map_eq_some_iff.mp told
      exact ⟨profile, rfl⟩
  · intro profile
    rw [Profile.map_kind_eq_some_iff, Profile.map_kind_eq_some_iff, Profile.map_kind_eq_some_iff,
      ← effect.creates_nonempty_iff, Store.flagOld_ofRoles, Store.sync_ofRoles,
      Store.createNew_ofRoles]
    refine ⟨?_, ?_, ?_⟩
    · simp only [Set.Nonempty, UserUpdate.flags, Set.mem_ofPred_eq, exists_and_left, and_assoc]
    · simp only [Set.Nonempty, UserUpdate.syncs, Set.mem_ofPred_eq, exists_and_left, and_assoc]
    · simp only [Set.Nonempty, UserUpdate.creates, Set.mem_ofPred_eq, exists_and_left,
        exists_eq, and_true]

/-- An adopter with a profile becomes a pet owner under another name: the report tells that a
profile was flagged and one was created, and so it was.
-/
theorem report_exact_of_adopter
    : let d := (fresh .epoch).after [
        .create .user (UserContent.ofName "Ann" "secret" .adopter),
        .create .adopter (AdopterContent.ofName "Ann")]
      let u : UserUpdate := ⟨1, "Anne", none, "secret", .petOwner⟩
      let run := (updateUser u).run d
      run.1 = .ok (.changed .adopter .petOwner (some .adopter) (some .petOwner))
      ∧ (u.flags d.store "Ann" .adopter .adopter).Nonempty
      ∧ ∃ key, ¬ d.store.tables.IsLive .petOwner key ∧ run.2.store.tables.IsLive .petOwner key := by
  intro d u run
  have answer : run.1 = .ok (.changed .adopter .petOwner (some .adopter) (some .petOwner)) := by
    decide +kernel
  obtain ⟨name, role, effect, -, -, told⟩ := report_exact answer
  obtain ⟨row, found, named, ofRole, -⟩ := effect.user
  have user : d.store.tables.liveRow? .user 1
      = some (.fresh (UserContent.ofName "Ann" "secret" .adopter)) := by
    decide +kernel
  have profile : d.store.tables.liveRow? .adopter 1
      = some (.fresh (AdopterContent.ofName "Ann")) := by
    decide +kernel
  cases user.symm.trans found
  cases named
  obtain rfl := Role.name_injective (a := .adopter) (Option.some.inj ofRole)
  exact ⟨answer, (told .adopter).1.mpr ⟨rfl, 1, _, profile, rfl⟩, (told .petOwner).2.2.mp rfl⟩

/-- An adopter without a profile becomes an administrator: it is reported and announced that a
profile was flagged, but there is none. Nor is there one to sync if the adopter only gets an
email.
-/
theorem missing_profile_reported
    : let d := (fresh .epoch).after [.create .user (UserContent.ofName "Ann" "secret" .adopter)]
      let leave : UserUpdate := ⟨1, "Ann", none, "secret", .admin⟩
      let stay : UserUpdate := ⟨1, "Ann", some "ann@example.org", "secret", .adopter⟩
      let run := (updateUser leave).run d
      (d.store.tables.live .adopter).map Table.entries = some []
      ∧ run.1 = .ok (.changed .adopter .admin (some .adopter) none)
      ∧ run.2.emitted = [.enclose .epoch (.profileFlagged .adopter "Ann")]
      ∧ (run.2.store.tables.live .adopter).map Table.entries = some []
      ∧ ((updateUser stay).run d).1 = .ok (.unchanged (some .adopter)) := by
  intro d leave stay run
  refine ⟨?_, ?_, ?_, ?_, ?_⟩ <;> decide +kernel

end Database

end AdoptionRecords
