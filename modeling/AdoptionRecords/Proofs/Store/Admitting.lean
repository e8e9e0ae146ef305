import AdoptionRecords.Proofs.Store.Rulings
import AdoptionRecords.Proofs.Store.Updating

/-! When an update of a user is carried out. On a store as the schema makes it, a user whose row
the rules permit can be updated, unless a new profile is to be created and its table gives no free
key.
-/

namespace AdoptionRecords

open Calendar Text Work

/-- The texts that an update brings. -/
def UserUpdate.texts (u : UserUpdate) : List String :=
  [u.username] ++ u.email.toList ++ [u.password]

-----------------------------------------------------------------------------------------
-- Permitted rows
-----------------------------------------------------------------------------------------

/-- A live row is permitted if its content lacks no value, it is known whether it is flagged, and
the role that it may name is a known one.
-/
theorem LiveRow.permitted_iff {kind : Kind} {row : LiveRow kind}
    : row.Permitted
      ↔ Content.Filled kind row.content ∧ row.archived ≠ none
        ∧ Content.HasKnownRole kind row.content := by
  have gap : (LiveRow.columns kind).gap? row.cells
      = (kind.columns.gap? (Content.cells kind row.content)).or
        (LiveRow.flagColumns.gap? row.flagCells) :=
    Shape.gap?_append (Content.length_cells kind row.content)
  have flag : LiveRow.flagColumns.gap? row.flagCells = none ↔ row.archived ≠ none := by
    cases archived : row.archived <;>
      simp [LiveRow.flagColumns, LiveRow.flagCells, archived, Shape.gap?, Field.required,
        Field.nullable, Cell.ofOption]
  constructor
  · intro h
    have filled := h.filled
    rw [gap, Option.or_eq_none_iff, flag] at filled
    exact ⟨filled.1, filled.2, h.hasRole⟩
  · rintro ⟨filled, flagged, known⟩
    refine ⟨?_, known⟩
    rw [gap, Option.or_eq_none_iff, flag]
    exact ⟨filled, flagged⟩

/-- Profiles name no role. -/
theorem Profile.hasKnownRole (profile : Profile) (content : Content profile.kind)
    : Content.HasKnownRole profile.kind content := by
  cases profile <;> trivial

namespace UserUpdate

/-- The new content of a user lacks no value. -/
theorem filled_content (u : UserUpdate) (old : UserContent)
    : Content.Filled .user (u.content old) := by
  simp [Content.Filled, Kind.columns, Content.cells, content, Shape.gap?, Field.required,
    Field.nullable, Cell.ofOption]

theorem filled_newProfile (u : UserUpdate) (profile : Profile)
    : Content.Filled profile.kind (u.newProfile profile) := by
  cases profile <;>
    simp [Content.Filled, Profile.kind, Kind.columns, Content.cells, newProfile, Shape.gap?,
      Field.required, Field.nullable, Cell.ofOption]

/-- A profile that takes over the values of an update lacks none that it had. -/
theorem filled_synced (u : UserUpdate) {profile : Profile} {c : Content profile.kind}
    (h : Content.Filled profile.kind c)
    : Content.Filled profile.kind (u.synced profile c) := by
  cases profile <;>
    simp_all [Content.Filled, Profile.kind, Kind.columns, Content.cells, synced, Shape.gap?,
      Field.required, Field.nullable, Cell.ofOption]

/-- The store can hold a new profile if it can hold the texts of the update. -/
theorem storable_newProfile (u : UserUpdate) (profile : Profile)
    (storable : u.texts.any hasNul = false)
    : (Content.texts profile.kind (u.newProfile profile)).any hasNul = false := by
  have contact : hasNul defaultContact = false := by decide +kernel
  have address : hasNul defaultAddress = false := by decide +kernel
  obtain ⟨key, username, email, password, role⟩ := u
  cases profile <;> cases email <;>
    simp_all [texts, Profile.kind, Content.texts, newProfile]

end UserUpdate

-----------------------------------------------------------------------------------------
-- Keys of new rows
-----------------------------------------------------------------------------------------

/-- (s.RefusesKey kind cause) holds if the live table of a kind gives no key for a new row: all
its keys were given, or the next one is taken.
-/
inductive Store.RefusesKey (s : Store) (kind : Kind) : StoreError → Prop
  | exhausted (given : greatestLiveKey < s.sequences.live kind)
    : RefusesKey s kind
        (.sequenceExhausted s!"{kind.liveTable}_{kind.keyColumn}_seq" greatestLiveKey)
  | taken (left : s.sequences.live kind ≤ greatestLiveKey)
    (live : s.tables.IsLive kind (s.sequences.live kind))
    : RefusesKey s kind (.duplicateKey (primaryKey (.live kind)))

namespace Store

variable {s : Store}

/-- A row that could be created is created, unless its table gives no key for it. -/
theorem createLive_decided {kind : Kind} {content : Content kind} {rows : Table (LiveRow kind)}
    (present : s.tables.live kind = some rows)
    (texts : (Content.texts kind content).any hasNul = false)
    (dates : (Content.dates kind content).all Date.isStorable = true)
    (permitted : (LiveRow.fresh content).Permitted)
    : ((∀ cause, ¬ s.RefusesKey kind cause)
        ∧ ∃ key after, s.Yields (createLive kind content) key after)
      ∨ ∃ cause after, s.RefusesKey kind cause
        ∧ s.Stops (createLive kind content) (.database cause) after := by
  by_cases left : s.sequences.live kind ≤ greatestLiveKey
  · by_cases live : s.tables.IsLive kind (s.sequences.live kind)
    · refine .inr ⟨_, s.drawn kind, .taken left live, ?_⟩
      rw [Tables.isLive_iff_contains present] at live
      simp [createLive, present, texts, dates, permitted, left, live, and_assoc]
    · have free := live
      rw [Tables.isLive_iff_contains present, Bool.not_eq_true] at free
      refine .inl ⟨?_, _, _, yields_createLive_iff.mpr
        ⟨rows, present, texts, dates, left, permitted, free, rfl, rfl⟩⟩
      rintro _ (given | ⟨-, taken⟩)
      · omega
      · exact live taken
  · rw [Int.not_le] at left
    refine .inr ⟨_, s, .exhausted left, ?_⟩
    simp [createLive, present, texts, dates, left, and_assoc]

/-- Whether a table gives a key depends on the keys that it gave and on the one that is next. -/
theorem RefusesKey.congr {other : Store} {kind : Kind} {cause : StoreError}
    (sequences : other.sequences = s.sequences)
    (live : other.tables.IsLive kind (s.sequences.live kind)
      ↔ s.tables.IsLive kind (s.sequences.live kind))
    : other.RefusesKey kind cause ↔ s.RefusesKey kind cause := by
  constructor
  · rintro (given | ⟨left, taken⟩)
    · exact .exhausted (sequences ▸ given)
    · exact .taken (sequences ▸ left) (live.mp (sequences ▸ taken))
  · rintro (given | ⟨left, taken⟩)
    · exact .exhausted (sequences.symm ▸ given)
    · exact .taken (sequences.symm ▸ left) (by rw [sequences]; exact live.mpr taken)

/-- A table that gives no key has one reason. -/
theorem RefusesKey.unique {kind : Kind} {cause other : StoreError} (h : s.RefusesKey kind cause)
    (again : s.RefusesKey kind other)
    : cause = other := by
  rcases h with given | ⟨left, -⟩ <;> rcases again with given' | ⟨left', -⟩
  · rfl
  · omega
  · omega
  · rfl

end Store

-----------------------------------------------------------------------------------------
-- Updates that can be carried out
-----------------------------------------------------------------------------------------

/-- The tables of profiles are there, and none of their rows lacks a value that must be there. -/
def Tables.ProfilesFilled (t : Tables) : Prop :=
  ∀ profile : Profile, ∃ rows, t.live profile.kind = some rows
    ∧ ∀ entry ∈ rows.entries, Content.Filled profile.kind entry.2.content

theorem Tables.Migrated.profilesFilled {t : Tables} (h : t.Migrated) : t.ProfilesFilled := by
  intro profile
  obtain ⟨rows, present⟩ := h.live profile.kind
  refine ⟨rows, present, ?_⟩
  rintro ⟨key, row⟩ member
  rw [← Table.find?_eq_some_iff, ← liveRow?_of_live present] at member
  exact h.liveFilled profile.kind key row member

/-- The update of a user who had the given role is refused for want of a key: it is to create a
profile whose table gives none.
-/
def UserUpdate.Refused (u : UserUpdate) (s : Store) (role : Role) (cause : StoreError) : Prop :=
  ∃ profile, role ≠ u.role ∧ u.role.profile? = some profile ∧ s.RefusesKey profile.kind cause

theorem UserUpdate.Refused.unique {u : UserUpdate} {s : Store} {role : Role}
    {cause other : StoreError} (h : u.Refused s role cause) (again : u.Refused s role other)
    : cause = other := by
  obtain ⟨profile, -, new, refuses⟩ := h
  obtain ⟨profile', -, new', refuses'⟩ := again
  rw [new, Option.some_inj] at new'
  subst profile'
  exact refuses.unique refuses'

/-- A user whose row the rules permit has a known role. -/
theorem LiveRow.Permitted.exists_role {row : LiveRow .user} (h : row.Permitted)
    : ∃ role : Role, (row.content : UserContent).roleName = some role.name := by
  obtain ⟨filled, -, known⟩ := permitted_iff.mp h
  cases named : (row.content : UserContent).roleName with
  | none =>
      simp [Content.Filled, Kind.columns, Content.cells, named, Shape.gap?, Cell.ofOption,
        Field.required, Field.nullable] at filled
  | some name =>
      rw [Content.HasKnownRole, named, Option.all_some, Option.isSome_iff_exists] at known
      obtain ⟨role, read⟩ := known
      exact ⟨role, congrArg some (Role.read?_eq_some_iff.mp read)⟩

namespace Store

variable {s : Store} {u : UserUpdate} {name : String} {role : Role} {now : Instant}

/-- A user whose row the rules permit can be replaced. -/
theorem exists_replace {users : Table (LiveRow .user)} {row : LiveRow .user}
    (present : s.tables.live .user = some users) (found : users.find? u.key = some row)
    (permitted : row.Permitted) (named : (row.content : UserContent).username = some name)
    (ofRole : (row.content : UserContent).roleName = some role.name)
    (storable : u.texts.any hasNul = false)
    : ∃ after, s.Yields u.replace (name, role) after := by
  obtain ⟨filled, flagged, -⟩ := LiveRow.permitted_iff.mp permitted
  have known : Content.HasKnownRole .user (u.content row.content) := by
    simp [Content.HasKnownRole, UserUpdate.content, Role.read?_eq_some_iff.mpr rfl]
  refine ⟨_, yields_replace_iff.mpr ⟨users, row, present, found, filled, ?_,
    UserContent.role_eq_ok_iff.mpr ofRole, storable,
    LiveRow.permitted_iff.mpr ⟨u.filled_content row.content, flagged, known⟩, rfl⟩⟩
  rw [named, answered]

/-- The old profile can be flagged. -/
theorem exists_flagOld (filled : s.tables.ProfilesFilled) (storable : hasNul name = false)
    (now : Instant) (found : Option Profile)
    : ∃ after, s.Yields (found.forM fun profile => do let _ ← Flag.setProfiles profile name now)
        () after := by
  cases found with
  | none => exact ⟨s, yields_forM_option_iff.mpr (.inr ⟨rfl, rfl⟩)⟩
  | some profile =>
      obtain ⟨rows, present, filled⟩ := filled profile
      have permitted : ∀ entry ∈ rows.entries, Flag.carries profile name entry.2 = true →
          (entry.2.flag now).Permitted := fun entry member _ =>
        LiveRow.permitted_iff.mpr
          ⟨filled entry member, Option.some_ne_none _, profile.hasKnownRole _⟩
      have flags := yields_setProfiles_iff.mpr
        ⟨storable, yields_updateLive_iff.mpr ⟨rows, present, permitted, rfl, rfl⟩⟩
      exact ⟨_, yields_forM_option_iff.mpr (.inl ⟨profile, rfl,
        yields_bind_iff.mpr ⟨_, _, flags, yields_pure_iff.mpr ⟨rfl, rfl⟩⟩⟩)⟩

/-- The profile of a role that stays can be synced. -/
theorem exists_sync (filled : s.tables.ProfilesFilled) (known : hasNul name = false)
    (storable : u.texts.any hasNul = false) (found : Option Profile)
    : ∃ after, s.Yields (found.forM fun profile => u.sync profile name) () after := by
  cases found with
  | none => exact ⟨s, yields_forM_option_iff.mpr (.inr ⟨rfl, rfl⟩)⟩
  | some profile =>
      obtain ⟨rows, present, filled⟩ := filled profile
      have permitted : ∀ entry ∈ rows.entries, UserUpdate.keeps profile name entry.2 = true →
          (u.syncedRow profile entry.2).Permitted := by
        intro entry member kept
        have active := (keeps_iff.mp kept).2
        refine LiveRow.permitted_iff.mpr
          ⟨u.filled_synced (filled entry member), ?_, profile.hasKnownRole _⟩
        rw [UserUpdate.syncedRow, active]
        exact Option.some_ne_none _
      have texts : (u.email.toList ++ [u.username, name]).any hasNul = false := by
        simp_all [UserUpdate.texts]
      have updates := yields_updateLive_iff.mpr ⟨rows, present, permitted, rfl, rfl⟩
      exact ⟨_, yields_forM_option_iff.mpr (.inl ⟨profile, rfl,
        yields_sync_iff.mpr ⟨texts, _, updates⟩⟩)⟩

/-- The profile of a new role can be created, unless its table gives no key. -/
theorem createNew_decided
    (present : ∀ profile : Profile, (s.tables.live profile.kind).isSome = true)
    (storable : u.texts.any hasNul = false) (found : Option Profile)
    : ((∀ profile cause, found = some profile → ¬ s.RefusesKey profile.kind cause)
        ∧ ∃ after, s.Yields
          (found.forM fun profile => do let _ ← createLive profile.kind (u.newProfile profile))
          () after)
      ∨ ∃ profile cause after, found = some profile ∧ s.RefusesKey profile.kind cause
        ∧ s.Stops
          (found.forM fun profile => do let _ ← createLive profile.kind (u.newProfile profile))
          (.database cause) after := by
  cases found with
  | none => exact .inl ⟨by simp, s, yields_forM_option_iff.mpr (.inr ⟨rfl, rfl⟩)⟩
  | some profile =>
      obtain ⟨rows, present⟩ := Option.isSome_iff_exists.mp (present profile)
      have dates
          : (Content.dates profile.kind (u.newProfile profile)).all Date.isStorable = true := by
        cases profile <;> rfl
      have permitted : (LiveRow.fresh (u.newProfile profile)).Permitted :=
        LiveRow.permitted_iff.mpr
          ⟨u.filled_newProfile profile, Option.some_ne_none _, profile.hasKnownRole _⟩
      rcases createLive_decided present (u.storable_newProfile profile storable) dates permitted
        with ⟨given, key, after, created⟩ | ⟨cause, after, refused, stops⟩
      · refine .inl ⟨?_, after, yields_forM_option_iff.mpr (.inl ⟨profile, rfl,
          yields_bind_iff.mpr ⟨_, _, created, yields_pure_iff.mpr ⟨rfl, rfl⟩⟩⟩)⟩
        rintro _ cause ⟨⟩
        exact given cause
      · exact .inr ⟨profile, cause, after, rfl, refused, stops_forM_option_iff.mpr
          ⟨profile, rfl, stops_bind_iff.mpr (.inl stops)⟩⟩

/-- An update is carried out if its four parts are, one after another. -/
theorem Yields.update_of_parts {replaced flagged created after : Store}
    (hr : s.Yields u.replace (name, role) replaced)
    (hf : replaced.Yields ((ProfilePlan.ofRoles role u.role).flagOld.forM fun profile => do
      let _ ← Flag.setProfiles profile name now) () flagged)
    (hc : flagged.Yields ((ProfilePlan.ofRoles role u.role).createNew.forM fun profile => do
      let _ ← createLive profile.kind (u.newProfile profile)) () created)
    (hs : created.Yields ((ProfilePlan.ofRoles role u.role).sync.forM fun profile =>
      u.sync profile name) () after)
    : s.Yields (u.carryOut now) (name, role, .ofRoles role u.role) after := by
  simp only [UserUpdate.carryOut_eq, yields_bind_iff, yields_pure_iff]
  exact ⟨(name, role), replaced, hr, (), flagged, hf, (), created, hc, (), after, hs, rfl, rfl⟩

/-- A user who was replaced is updated if the role stays. -/
theorem exists_update_of_stays {replaced : Store} (hr : s.Yields u.replace (name, role) replaced)
    (stays : role = u.role) (filled : replaced.tables.ProfilesFilled) (known : hasNul name = false)
    (storable : u.texts.any hasNul = false) (now : Instant)
    : ∃ after, s.Yields (u.carryOut now) (name, role, .ofRoles role u.role) after := by
  have unflagged : (ProfilePlan.ofRoles role u.role).flagOld = none := by
    simp [ProfilePlan.ofRoles, stays]
  have uncreated : (ProfilePlan.ofRoles role u.role).createNew = none := by
    simp [ProfilePlan.ofRoles, stays]
  obtain ⟨after, hs⟩ := exists_sync filled known storable (ProfilePlan.ofRoles role u.role).sync
  exact ⟨after, hr.update_of_parts (yields_forM_option_iff.mpr (.inr ⟨unflagged, rfl⟩))
    (yields_forM_option_iff.mpr (.inr ⟨uncreated, rfl⟩)) hs⟩

/-- A user who was replaced is updated if the role changes, unless the update is refused for want
of a key: flagging the old profile takes no key and gives none back.
-/
theorem update_decided_of_moves {replaced : Store} (hr : s.Yields u.replace (name, role) replaced)
    (moves : role ≠ u.role) (filled : replaced.tables.ProfilesFilled) (known : hasNul name = false)
    (storable : u.texts.any hasNul = false) (now : Instant)
    : ((∀ cause, ¬ u.Refused s role cause)
        ∧ ∃ after, s.Yields (u.carryOut now) (name, role, .ofRoles role u.role) after)
      ∨ ∃ cause after, u.Refused s role cause
        ∧ s.Stops (u.carryOut now) (.database cause) after := by
  obtain ⟨flagged, hf⟩ := exists_flagOld filled known now (ProfilePlan.ofRoles role u.role).flagOld
  have amends := hf.amends_flagOld
  have there (profile : Profile) : (flagged.tables.live profile.kind).isSome = true := by
    obtain ⟨rows, present, -⟩ := filled profile
    rw [amends.present, present, Option.isSome_some]
  have refuses (profile : Profile) (cause : StoreError)
      : flagged.RefusesKey profile.kind cause ↔ s.RefusesKey profile.kind cause := by
    refine RefusesKey.congr (amends.sequences.trans hr.sequences_replace) ?_
    rw [Tables.IsLive, amends.rows, Option.isSome_map,
      hr.rows_replace.2.2.liveRow?_eq profile.kind_ne_user, Tables.IsLive]
  have unsynced : (ProfilePlan.ofRoles role u.role).sync = none := by
    simp [ProfilePlan.ofRoles, moves]
  rcases createNew_decided there storable (ProfilePlan.ofRoles role u.role).createNew
    with ⟨given, created, hc⟩ | ⟨profile, cause, after, planned, refused, stops⟩
  · refine .inl ⟨?_, created, hr.update_of_parts hf hc
      (yields_forM_option_iff.mpr (.inr ⟨unsynced, rfl⟩))⟩
    rintro cause ⟨profile, moves, new, refused⟩
    exact given profile cause (createNew_ofRoles.mpr ⟨moves, new⟩)
      ((refuses profile cause).mpr refused)
  · obtain ⟨moves, new⟩ := createNew_ofRoles.mp planned
    refine .inr ⟨cause, after, ⟨profile, moves, new, (refuses profile cause).mp refused⟩, ?_⟩
    simp only [UserUpdate.carryOut_eq, stops_bind_iff]
    exact .inr ⟨(name, role), replaced, hr, .inr ⟨(), flagged, hf, .inl stops⟩⟩

/-- A user whose row the rules permit is updated, on a store as the schema makes it, unless the
update is refused for want of a key.
-/
theorem update_decided {row : LiveRow .user} (migrated : s.tables.Migrated)
    (found : s.tables.liveRow? .user u.key = some row) (permitted : row.Permitted)
    (named : (row.content : UserContent).username = some name)
    (ofRole : (row.content : UserContent).roleName = some role.name)
    (known : hasNul name = false) (storable : u.texts.any hasNul = false) (now : Instant)
    : ((∀ cause, ¬ u.Refused s role cause)
        ∧ ∃ after, s.Yields (u.carryOut now) (name, role, .ofRoles role u.role) after)
      ∨ ∃ cause after, u.Refused s role cause
        ∧ s.Stops (u.carryOut now) (.database cause) after := by
  obtain ⟨users, present⟩ := migrated.live .user
  rw [Tables.liveRow?_of_live present] at found
  obtain ⟨replaced, hr⟩ := exists_replace present found permitted named ofRole storable
  have filled : replaced.tables.ProfilesFilled := by
    intro profile
    rw [hr.rows_replace.2.2.live profile.kind profile.kind_ne_user]
    exact migrated.profilesFilled profile
  by_cases stays : role = u.role
  · refine .inl ⟨?_, exists_update_of_stays hr stays filled known storable now⟩
    rintro cause ⟨_, moves, -⟩
    exact moves stays
  · exact update_decided_of_moves hr stays filled known storable now

end Store

end AdoptionRecords
