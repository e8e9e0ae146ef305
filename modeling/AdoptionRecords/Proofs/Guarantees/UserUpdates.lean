import AdoptionRecords.Proofs.Guarantees.AllOrNothing
import AdoptionRecords.Proofs.Store.Admitting

/-! What an update of a user does to a database. It is refused if the user is not live; otherwise
it has its effect on the rows of people, or it fails for want of a key for a new profile and
changes no table.
-/

namespace AdoptionRecords

open Calendar Text

/-- A live row is sound if the rules of its table permit it and the store can hold its texts, as
is asked of every row that is written.
-/
structure LiveRow.Sound {kind : Kind} (row : LiveRow kind) : Prop where
  permitted : row.Permitted
  texts : (Content.texts kind row.content).any hasNul = false

/-- A user whose row is sound has a username that the store can hold, and a known role. -/
theorem LiveRow.Sound.exists_name {row : LiveRow .user} (h : row.Sound)
    : ∃ name, (row.content : UserContent).username = some name ∧ hasNul name = false := by
  have filled := (permitted_iff.mp h.permitted).1
  have texts := h.texts
  cases named : (row.content : UserContent).username with
  | none =>
      simp [Content.Filled, Kind.columns, Content.cells, named, Shape.gap?, Cell.ofOption,
        Field.required] at filled
  | some name =>
      refine ⟨name, rfl, ?_⟩
      simp only [Content.texts, named, List.any_eq_false] at texts
      simpa using texts name (by simp)

namespace Store

variable {s : Store} {u : UserUpdate} {now : Instant}

/-- The update of a user who is not live stops before it writes. -/
theorem stops_update_of_absent {users : Table (LiveRow .user)}
    (present : s.tables.live .user = some users) (absent : users.find? u.key = none)
    : s.Stops (u.carryOut now) (.noUser u.key) s := by
  have found : s.Yields (Listing.findLive .user u.key) none s :=
    yields_findLive_iff.mpr ⟨users, present, absent.symm, by simp, rfl⟩
  rw [UserUpdate.carryOut_eq, stops_bind_iff, UserUpdate.replace, stops_bind_iff]
  refine .inl (.inr ⟨none, s, found, ?_⟩)
  simp

end Store

namespace Database

variable {d : Database} {u : UserUpdate}

/-- An update that stops fails with the same fault; at most it has drawn a key. -/
theorem run_updateUser_of_stops {fault : Fault} {after : Store} (reachable : d.reachable = true)
    (h : d.store.Stops (u.carryOut d.now) fault after)
    : (updateUser u).run d
        = (.error fault, { d with store := { d.store with sequences := after.sequences } }) := by
  simp only [updateUser, Session.run_bind, run_perform, if_pos reachable, h.perform_eq]
  rfl

/-- An update that is not refused reports what its roles ask for. -/
theorem run_updateUser_of_yields {name : String} {role : Role} {plan : ProfilePlan} {after : Store}
    (reachable : d.reachable = true)
    (h : d.store.Yields (u.carryOut d.now) (name, role, plan) after)
    : ((updateUser u).run d).1 = .ok (.ofPlan role u.role plan)
      ∧ ((updateUser u).run d).2.store = after := by
  obtain ⟨answer, same⟩ := run_updateUser d u
  rw [answer, same, run_perform, if_pos reachable, h.perform_eq]
  exact ⟨rfl, rfl⟩

/-- An update that is answered with a report was carried out. -/
theorem yields_of_updateUser {change : RoleChange} (h : ((updateUser u).run d).1 = .ok change)
    : d.reachable = true
      ∧ ∃ name role, change = .ofPlan role u.role (.ofRoles role u.role)
        ∧ d.store.Yields (u.carryOut d.now) (name, role, .ofRoles role u.role)
          ((updateUser u).run d).2.store := by
  by_cases reachable : d.reachable = true
  · rcases d.store.yields_or_stops (u.carryOut d.now) with ⟨⟨name, role, plan⟩, after, run⟩
      | ⟨fault, after, run⟩
    · obtain ⟨answer, store⟩ := run_updateUser_of_yields reachable run
      obtain ⟨rfl, -⟩ := run.stages_update
      rw [h, Except.ok.injEq] at answer
      rw [store]
      exact ⟨reachable, name, role, answer, run⟩
    · rw [run_updateUser_of_stops reachable run] at h
      cases h
  · rw [(run_updateUser d u).1, run_perform, if_neg reachable] at h
    cases h

/-- An update of a user whose row is sound fails exactly if it is refused for want of a key. -/
theorem error_updateUser_iff {row : LiveRow .user} (reachable : d.reachable = true)
    (migrated : d.store.tables.Migrated) (storable : u.texts.any hasNul = false)
    (found : d.store.tables.liveRow? .user u.key = some row) (sound : row.Sound)
    : ∃ role : Role, (row.content : UserContent).roleName = some role.name
        ∧ ∀ fault, ((updateUser u).run d).1 = .error fault
          ↔ ∃ cause, u.Refused d.store role cause ∧ fault = .database cause := by
  obtain ⟨name, named, known⟩ := sound.exists_name
  obtain ⟨role, ofRole⟩ := sound.permitted.exists_role
  refine ⟨role, ofRole, fun fault => ?_⟩
  rcases Store.update_decided migrated found sound.permitted named ofRole known storable d.now
    with ⟨given, after, carried⟩ | ⟨cause, after, refused, stopped⟩
  · rw [(run_updateUser_of_yields reachable carried).1]
    constructor
    · nofun
    · rintro ⟨cause, refused, -⟩
      exact (given cause refused).elim
  · rw [run_updateUser_of_stops reachable stopped]
    constructor
    · rintro ⟨⟩
      exact ⟨cause, refused, rfl⟩
    · rintro ⟨other, again, rfl⟩
      rw [UserUpdate.Refused.unique refused again]

/-- The effect of an update of a user, on any database that can be reached whose tables are those
of the schema. If the user is not live, that is answered and nothing is changed. If a report is
answered, the update has had its effect on the rows of people, and changed nothing else in any
table. If the row of the user is sound, the update fails only if its role is a new one whose
profiles give no key; and whenever it fails, no table is changed.
-/
theorem updateUser_exact (reachable : d.reachable = true) (migrated : d.store.tables.Migrated)
    (u : UserUpdate) (storable : u.texts.any hasNul = false)
    : let run := (updateUser u).run d
      (¬ d.store.tables.IsLive .user u.key → run = (.error (.noUser u.key), d))
      ∧ (∀ change, run.1 = .ok change →
          ∃ name role, u.Effect d.now name role d.store run.2.store)
      ∧ (∀ row : LiveRow .user, d.store.tables.liveRow? .user u.key = some row → row.Sound →
          ∃ role : Role, (row.content : UserContent).roleName = some role.name
            ∧ ∀ fault, run.1 = .error fault
              ↔ ∃ cause, u.Refused d.store role cause ∧ fault = .database cause)
      ∧ ∀ fault, run.1 = .error fault → d.Untouched run.2 := by
  intro run
  refine ⟨?_, ?_, ?_, fun _ => untouched_of_updateUser⟩
  · intro absent
    obtain ⟨users, present⟩ := migrated.live .user
    have missing : users.find? u.key = none := by
      rwa [Tables.IsLive, Tables.liveRow?_of_live present, Option.not_isSome_iff_eq_none] at absent
    exact run_updateUser_of_stops reachable (Store.stops_update_of_absent present missing)
  · intro change answered
    obtain ⟨-, name, role, -, carried⟩ := yields_of_updateUser answered
    exact ⟨name, role, carried.effect⟩
  · intro row found sound
    exact error_updateUser_iff reachable migrated storable found sound

/-- An adopter with two profiles becomes a pet owner under another name: both profiles are
flagged, and that of somebody else is not. If the keys of pet owners are used up, that is the
fault that is answered. A user who is not live is not updated.
-/
theorem updateUser_exact_of_renaming
    : let d := (fresh .epoch).after [
        .create .user (UserContent.ofName "Ann" "secret" .adopter),
        .create .adopter (AdopterContent.ofName "Ann"),
        .create .adopter (AdopterContent.ofName "Bob"),
        .create .adopter (AdopterContent.ofName "Ann")]
      let usedUp := { d with
        store := d.store.setSequence (.live .petOwner) (Work.greatestLiveKey + 1) }
      let u : UserUpdate := ⟨1, "Anne", none, "secret", .petOwner⟩
      let after := ((updateUser u).run d).2
      (∃ name role, u.Effect d.now name role d.store after.store)
      ∧ [1, 2, 3].map (fun key => (after.store.tables.liveRow? .adopter key).bind (·.archived))
        = [some true, some false, some true]
      ∧ (∃ cause, ((updateUser u).run usedUp).1 = .error (.database cause))
      ∧ (updateUser { u with key := 2 }).run d = (.error (.noUser 2), d) := by
  intro d usedUp u after
  have done : ((updateUser u).run d).1
      = .ok (.changed .adopter .petOwner (some .adopter) (some .petOwner)) := by
    decide +kernel
  let row : LiveRow .user := .fresh (UserContent.ofName "Ann" "secret" .adopter)
  have sound : row.Sound :=
    ⟨LiveRow.permitted_iff.mpr (by decide +kernel), by decide +kernel⟩
  have effect := (updateUser_exact (d := d) (by decide +kernel) (by decide +kernel) u
    (by decide +kernel)).2.1 _ done
  obtain ⟨role, ofRole, fails⟩ := (updateUser_exact (d := usedUp) (by decide +kernel)
    (by decide +kernel) u (by decide +kernel)).2.2.1 row (by decide +kernel) sound
  have absent := (updateUser_exact (d := d) (by decide +kernel) (by decide +kernel)
    { u with key := 2 } (by decide +kernel)).1 (by decide +kernel)
  obtain rfl := Role.name_injective (a := .adopter) (Option.some.inj ofRole)
  have refused : u.Refused usedUp.store .adopter _ :=
    ⟨.petOwner, by decide, rfl, .exhausted (by decide +kernel)⟩
  exact ⟨effect, by decide +kernel, ⟨_, (fails _).mpr ⟨_, refused, rfl⟩⟩, absent⟩

end Database

end AdoptionRecords
