import AdoptionRecords.UserUpdate
import AdoptionRecords.Proofs.Store.Changes

/-! Live rows amended where they stand: flags set and cleared, and users updated with their
profiles. Both flags of a pet are turned in the same way; an update of a user is carried out part
by part, and each part amends one table or creates one row.
-/

namespace AdoptionRecords

open Calendar Text Work

/-- Turns the flag of a live pet if it is as it was thought to be, and tells whether there is such a
pet.
-/
def Flag.turn (pet : Int) (before : Bool) (change : LiveRow .pet → LiveRow .pet) : Work Bool := do
  let pets ← liveTable .pet
  match pets.find? pet with
  | some row =>
      if row.archived ≠ some before then
        return false
      checkLive .pet (change row)
      putLive .pet (pets.insert pet (change row))
      return true
  | none => return false

/-- A pet's flag is set by turning it. -/
theorem Flag.setPet_eq_turn (pet : Int) (now : Instant)
    : Flag.setPet pet now = Flag.turn pet false (·.flag now) :=
  rfl

theorem Flag.clearPet_eq_turn (pet : Int) : Flag.clearPet pet = Flag.turn pet true (·.unflag) :=
  rfl

namespace UserUpdate

/-- An update replaces the row of the user and then carries out the plan, part by part. -/
theorem carryOut_eq (u : UserUpdate) (now : Instant)
    : u.carryOut now = do
        let (oldName, role) ← u.replace
        let plan := ProfilePlan.ofRoles role u.role
        plan.flagOld.forM fun profile => do let _ ← Flag.setProfiles profile oldName now
        plan.createNew.forM fun profile => do
          let _ ← createLive profile.kind (u.newProfile profile)
        plan.sync.forM fun profile => u.sync profile oldName
        return (oldName, role, plan) := by
  unfold carryOut
  congr 1
  funext (oldName, role)
  dsimp only
  cases (ProfilePlan.ofRoles role u.role).flagOld <;>
    cases (ProfilePlan.ofRoles role u.role).createNew <;>
    cases (ProfilePlan.ofRoles role u.role).sync <;>
    simp [Option.forM]

/-- The row of a user after an update. -/
def row (u : UserUpdate) (old : LiveRow .user) : LiveRow .user :=
  { old with content := u.content old.content }

/-- Whether a profile row takes over the email and username of an update. -/
def keeps (profile : Profile) (oldName : String) (row : LiveRow profile.kind) : Bool :=
  Flag.carries profile oldName row && row.archived == some false

/-- A profile row with the email and username of an update. -/
def syncedRow (u : UserUpdate) (profile : Profile) (row : LiveRow profile.kind)
    : LiveRow profile.kind :=
  { row with content := u.synced profile row.content }

end UserUpdate

namespace Store

variable {s after : Store} {fault : Fault}

/-- Work on a value that may be missing yields what the work yields, or nothing is done. -/
@[simp]
theorem yields_forM_option_iff {α : Type} {found : Option α} {work : α → Work PUnit}
    {value : PUnit}
    : s.Yields (found.forM work) value after
      ↔ (∃ given, found = some given ∧ s.Yields (work given) value after)
        ∨ found = none ∧ after = s := by
  cases found <;> simp [Option.forM]

@[simp]
theorem stops_forM_option_iff {α : Type} {found : Option α} {work : α → Work PUnit}
    : s.Stops (found.forM work) fault after
      ↔ ∃ given, found = some given ∧ s.Stops (work given) fault after := by
  cases found <;> simp [Option.forM]

section Flags

variable {pet : Int} {before : Bool} {change : LiveRow .pet → LiveRow .pet}

/-- A pet's flag is turned exactly if the pet is live, its flag is as it was thought to be and the
rules of its table permit the change; nothing is written about any other pet.
-/
theorem yields_turn_iff {turned : Bool}
    : s.Yields (Flag.turn pet before change) turned after
      ↔ ∃ pets, s.tables.live .pet = some pets
          ∧ ((∃ row, pets.find? pet = some row ∧ row.archived = some before
                ∧ (change row).Permitted ∧ turned = true
                ∧ after = { s with tables := s.tables.setLive .pet (pets.insert pet (change row)) })
            ∨ (∀ row, pets.find? pet = some row → row.archived ≠ some before)
                ∧ turned = false ∧ after = s) := by
  simp only [Flag.turn, yields_bind_iff, yields_liveTable_iff]
  constructor
  · intro h
    obtain ⟨pets, _, ⟨present, rfl⟩, h⟩ := h
    refine ⟨pets, present, ?_⟩
    cases found : pets.find? pet with
    | none =>
        simp only [found, yields_pure_iff] at h
        exact .inr ⟨by simp, h⟩
    | some row =>
        simp only [found, yields_ite_iff, yields_bind_iff, yields_checkLive_iff,
          yields_putLive_iff, yields_pure_iff, ne_eq] at h
        rcases h with ⟨other, h⟩ | ⟨same, _, _, ⟨permitted, rfl⟩, _, _, rfl, rfl, rfl⟩
        · exact .inr ⟨by simpa using other, h⟩
        · exact .inl ⟨row, rfl, Decidable.not_not.mp same, permitted, rfl, rfl⟩
  · intro h
    rcases h with ⟨pets, present, ⟨row, found, same, permitted, rfl, rfl⟩ | ⟨other, rfl, rfl⟩⟩
    · refine ⟨pets, s, ⟨present, rfl⟩, ?_⟩
      simp only [found, yields_ite_iff, yields_bind_iff, yields_checkLive_iff,
        yields_putLive_iff, yields_pure_iff, ne_eq]
      exact .inr ⟨not_not_intro same, (), s, ⟨permitted, rfl⟩, (), _, rfl, trivial, rfl⟩
    · refine ⟨pets, after, ⟨present, rfl⟩, ?_⟩
      cases found : pets.find? pet with
      | none => simp
      | some row => simp [other row found]

/-- Where the turning of a flag stops, the store is as it was: it draws no key. -/
theorem eq_of_stops_turn (h : s.Stops (Flag.turn pet before change) fault after) : after = s := by
  rcases stops_bind_iff.mp h with early | ⟨pets, middle, reached, late⟩
  · exact (stops_liveTable_iff.mp early).2
  obtain ⟨-, rfl⟩ := yields_liveTable_iff.mp reached
  cases found : pets.find? pet with
  | none => simp [found] at late
  | some row =>
      simp [found, checkLive, checkContent, -bind_pure_comp] at late
      obtain ⟨-, _, -, -, rfl⟩ := late
      rfl

end Flags

section Profiles

variable {profile : Profile} {username oldName : String} {now : Instant} {u : UserUpdate}

/-- The profile rows with a username are flagged if the store can hold the username and the rules
of the table permit all flagged rows.
-/
theorem yields_setProfiles_iff {flagged : Nat}
    : s.Yields (Flag.setProfiles profile username now) flagged after
      ↔ hasNul username = false
        ∧ s.Yields (updateLive profile.kind (Flag.carries profile username) (·.flag now)) flagged
            after := by
  simp only [Flag.setProfiles, yields_bind_iff, yields_liveTable_iff, yields_checkTexts_iff,
    List.any_cons, List.any_nil, Bool.or_false]
  constructor
  · intro h
    obtain ⟨_, _, ⟨-, rfl⟩, _, _, ⟨storable, rfl⟩, h⟩ := h
    exact ⟨storable, h⟩
  · intro h
    obtain ⟨storable, h⟩ := h
    obtain ⟨rows, present, -⟩ := yields_updateLive_iff.mp h
    exact ⟨rows, s, ⟨present, rfl⟩, (), s, ⟨storable, rfl⟩, h⟩

/-- The profile rows that take over an email and a username do so if the store can hold the texts
and the rules of the table permit all changed rows.
-/
theorem yields_sync_iff {value : Unit}
    : s.Yields (u.sync profile oldName) value after
      ↔ (u.email.toList ++ [u.username, oldName]).any hasNul = false
        ∧ ∃ changed,
            s.Yields (updateLive profile.kind (UserUpdate.keeps profile oldName)
              (u.syncedRow profile)) changed after := by
  simp only [UserUpdate.sync, yields_bind_iff, yields_liveTable_iff, yields_checkTexts_iff,
    yields_pure_iff]
  constructor
  · intro h
    obtain ⟨_, _, ⟨-, rfl⟩, _, _, ⟨storable, rfl⟩, changed, _, h, -, rfl⟩ := h
    exact ⟨storable, changed, h⟩
  · intro h
    obtain ⟨storable, changed, h⟩ := h
    obtain ⟨rows, present, -⟩ := yields_updateLive_iff.mp h
    exact ⟨rows, s, ⟨present, rfl⟩, (), s, ⟨storable, rfl⟩, changed, after, h, trivial, rfl⟩

/-- A live row is looked up if its table is there and nothing of it is missing that is shown. -/
theorem yields_findLive_iff {kind : Kind} {key : Int} {found : Option (LiveRow kind)}
    : s.Yields (Listing.findLive kind key) found after
      ↔ ∃ rows, s.tables.live kind = some rows ∧ found = rows.find? key
          ∧ (∀ row, found = some row →
              (Shown.columns kind).gap? (Shown.cells kind row.shown) = none)
          ∧ after = s := by
  simp only [Listing.findLive, yields_bind_iff, yields_liveTable_iff]
  constructor
  · intro h
    obtain ⟨rows, _, ⟨present, rfl⟩, h⟩ := h
    refine ⟨rows, present, ?_⟩
    cases there : rows.find? key with
    | none =>
        simp only [there, yields_pure_iff] at h
        obtain ⟨rfl, rfl⟩ := h
        exact ⟨rfl, by simp, rfl⟩
    | some row =>
        simp only [there, Listing.checkedLive, yields_bind_iff, yields_checkAnswer_iff,
          yields_pure_iff] at h
        obtain ⟨_, _, ⟨_, _, ⟨whole, rfl⟩, rfl, rfl⟩, rfl, rfl⟩ := h
        exact ⟨rfl, by simpa using whole, rfl⟩
  · intro h
    obtain ⟨rows, present, rfl, whole, rfl⟩ := h
    refine ⟨rows, after, ⟨present, rfl⟩, ?_⟩
    cases there : rows.find? key with
    | none => simp
    | some row => simp [Listing.checkedLive, whole row there, -bind_pure_comp]

/-- The row of a user is replaced exactly if the user is live with a username and a known role,
the store can hold the new texts and the rules of the table permit the new row.
-/
theorem yields_replace_iff {name : String} {role : Role}
    : s.Yields u.replace (name, role) after
      ↔ ∃ users row,
          s.tables.live .user = some users
          ∧ users.find? u.key = some row
          ∧ (Shown.columns .user).gap? (Shown.cells .user row.shown) = none
          ∧ answered "username" (row.content : UserContent).username = .ok name
          ∧ (row.content : UserContent).role = .ok role
          ∧ ([u.username] ++ u.email.toList ++ [u.password]).any hasNul = false
          ∧ (u.row row).Permitted
          ∧ after = { s with
              tables := s.tables.setLive .user (users.insert u.key (u.row row)) } := by
  simp only [UserUpdate.replace, yields_bind_iff, yields_findLive_iff]
  constructor
  · intro h
    obtain ⟨_, _, ⟨users, present, rfl, whole, rfl⟩, h⟩ := h
    cases found : users.find? u.key with
    | none => simp [found] at h
    | some row =>
        simp only [found, yields_bind_iff, yields_lift_iff, yields_checkTexts_iff,
          yields_checkLive_iff, yields_liveTable_iff, yields_putLive_iff, yields_pure_iff,
          Prod.mk.injEq] at h
        obtain ⟨_, _, ⟨named, rfl⟩, _, _, ⟨ofRole, rfl⟩, _, _, ⟨storable, rfl⟩, _, _,
          ⟨permitted, rfl⟩, _, _, ⟨again, rfl⟩, _, _, rfl, ⟨rfl, rfl⟩, rfl⟩ := h
        rw [present] at again
        cases again
        exact ⟨users, row, present, found, whole row found, named, ofRole, storable, permitted, rfl⟩
  · intro h
    obtain ⟨users, row, present, found, whole, named, ofRole, storable, permitted, rfl⟩ := h
    refine ⟨some row, s, ⟨users, present, found.symm, by simpa using whole, rfl⟩, ?_⟩
    simp only [yields_bind_iff, yields_lift_iff, yields_checkTexts_iff, yields_checkLive_iff,
      yields_liveTable_iff, yields_putLive_iff, yields_pure_iff, Prod.mk.injEq]
    exact ⟨name, s, ⟨named, rfl⟩, role, s, ⟨ofRole, rfl⟩, (), s, ⟨storable, rfl⟩, (), s,
      ⟨permitted, rfl⟩, users, s, ⟨present, rfl⟩, (), _, rfl, ⟨rfl, rfl⟩, rfl⟩

end Profiles

end Store

namespace Work

/-- A flag is turned only once the rules of its table are known to permit it. -/
theorem writesLast_turn (pet : Int) (before : Bool) (change : LiveRow .pet → LiveRow .pet)
    : WritesLast (Flag.turn pet before change) := by
  refine .bind (writesNothing_liveTable _) fun pets => ?_
  cases pets.find? pet with
  | none => exact (WritesNothing.pure _).toWritesLast
  | some row =>
      refine .ite (WritesNothing.pure _).toWritesLast ?_
      refine .bind (writesNothing_checkLive _) fun _ => ?_
      exact .of_not_stops (by simp [-bind_pure_comp])

/-- Profile rows are flagged last of all. -/
theorem writesLast_setProfiles (profile : Profile) (username : String) (now : Instant)
    : WritesLast (Flag.setProfiles profile username now) :=
  .bind (writesNothing_liveTable _) fun _ =>
    .bind (writesNothing_checkTexts _) fun _ =>
    writesLast_updateLive ..

/-- Profile rows take over the values of an update last of all. -/
theorem writesLast_sync (u : UserUpdate) (profile : Profile) (oldName : String)
    : WritesLast (u.sync profile oldName) :=
  .bind (writesNothing_liveTable _) fun _ =>
    .bind (writesNothing_checkTexts _) fun _ =>
    .bind_pure (writesLast_updateLive ..)

/-- Looking a live row up writes nothing. -/
theorem writesNothing_findLive (kind : Kind) (key : Int)
    : WritesNothing (Listing.findLive kind key) := by
  refine .bind (writesNothing_liveTable _) fun rows => ?_
  cases rows.find? key with
  | none => exact .pure _
  | some row =>
      refine .bind ?_ fun _ => .pure _
      exact .bind (writesNothing_checkAnswer ..) fun _ => .pure _

/-- The row of a user is replaced last of all. -/
theorem writesLast_replace (u : UserUpdate) : WritesLast u.replace := by
  refine .bind (writesNothing_findLive ..) fun found => ?_
  cases found with
  | none => exact (WritesNothing.throw _).toWritesLast
  | some row =>
      refine .bind (.lift _) fun name => ?_
      refine .bind (.lift _) fun role => ?_
      refine .bind (writesNothing_checkTexts _) fun _ => ?_
      refine .bind (writesNothing_checkLive _) fun _ => ?_
      refine .bind (writesNothing_liveTable _) fun users => ?_
      exact .of_not_stops (by simp [-bind_pure_comp])

end Work

end AdoptionRecords
