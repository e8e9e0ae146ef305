import AdoptionRecords.Proofs.Store.Units
import Mathlib.Data.Set.Basic

/-! What an update of a user does to the rows of the store. The row of the user takes the new
values. If the role changes, the rows of the old profile are flagged and a row of the new profile
is created; if it stays, the active rows of the profile take over the username and the email.
-/

namespace AdoptionRecords

open Calendar Text Work

-----------------------------------------------------------------------------------------
-- Roles and profiles
-----------------------------------------------------------------------------------------

/-- A role is read from its own name and from no other text. -/
theorem Role.read?_eq_some_iff {name : String} {role : Role}
    : read? name = some role ↔ name = role.name := by
  constructor
  · intro h
    have same := List.find?_some h
    exact (eq_of_beq same).symm
  · rintro rfl
    cases role <;> rfl

theorem Role.name_injective {a b : Role} (h : a.name = b.name) : a = b := by
  rw [← Option.some_inj, ← read?_eq_some_iff.mpr h.symm]
  exact read?_eq_some_iff.mpr rfl

/-- The role of a user is told by its name in the user's row. -/
theorem UserContent.role_eq_ok_iff {c : UserContent} {role : Role}
    : c.role = .ok role ↔ c.roleName = some role.name := by
  cases named : c.roleName with
  | none => simp [UserContent.role, named, answered, bind, Except.bind]
  | some name =>
      rw [Option.some_inj, ← Role.read?_eq_some_iff]
      cases read : Role.read? name <;>
        simp [UserContent.role, named, read, answered, bind, Except.bind, pure, Except.pure,
          throw, throwThe, MonadExceptOf.throw]

namespace Profile

theorem kind_injective {a b : Profile} (h : a.kind = b.kind) : a = b := by
  cases a <;> cases b <;> first | rfl | cases h

theorem kind_ne_user (profile : Profile) : profile.kind ≠ .user := by
  cases profile <;> nofun

end Profile

/-- The kinds of record that are profiles. -/
def Kind.IsOfProfile (kind : Kind) : Prop :=
  ∃ profile : Profile, profile.kind = kind

/-- What a profile tells of a person. Both kinds of profile tell the same, in another order. -/
structure ProfileDetails where
  username : Option String
  name : Option String
  contact : Option String
  email : Option String
  address : Option String
  profile : Option String
  login : Option String
  password : Option String
  deriving DecidableEq, Repr

/-- The details that the content of a profile holds. -/
def Profile.details : (profile : Profile) → Content profile.kind → ProfileDetails
  | .adopter, (c : AdopterContent) =>
      { username := c.username, name := c.name, contact := c.contact, email := c.email
        address := c.address, profile := c.profile, login := c.login, password := c.password }
  | .petOwner, (c : PetOwnerContent) =>
      { username := c.username, name := c.name, contact := c.contact, email := c.email
        address := c.address, profile := c.profile, login := c.login, password := c.password }

namespace UserUpdate

/-- The details of the profile that an update creates. -/
theorem details_newProfile (u : UserUpdate) (profile : Profile)
    : profile.details (u.newProfile profile) =
      { username := some u.username, name := some u.username, contact := some "09000000000"
        email := u.email, address := some "Address not provided", profile := none
        login := some u.username, password := some u.password } := by
  cases profile <;> rfl

/-- A profile takes over the username and the email of an update, and nothing else. -/
theorem details_synced (u : UserUpdate) (profile : Profile) (c : Content profile.kind)
    : profile.details (u.synced profile c) =
      { profile.details c with username := some u.username, email := u.email } := by
  cases profile <;> rfl

end UserUpdate

namespace Tables

/-- The keys of the live rows of a profile that carry a username. -/
def profiles (t : Tables) (profile : Profile) (name : String) : Set Int :=
  { key | ∃ row, t.liveRow? profile.kind key = some row
    ∧ profile.username row.content = some name }

/-- The keys of those among them that are not flagged. -/
def activeProfiles (t : Tables) (profile : Profile) (name : String) : Set Int :=
  { key | ∃ row, t.liveRow? profile.kind key = some row
    ∧ profile.username row.content = some name ∧ row.archived = some false }

/-- (before.AgreesBeside kinds after) holds if the tables differ at most in the live rows of the
given kinds.
-/
structure AgreesBeside (kinds : Kind → Prop) (before after : Tables) : Prop where
  live : ∀ kind, ¬ kinds kind → after.live kind = before.live kind
  archive : after.archive = before.archive
  log : after.log = before.log
  ledger : after.ledger = before.ledger

namespace AgreesBeside

variable {kinds more : Kind → Prop} {before middle after : Tables}

theorem refl (t : Tables) : t.AgreesBeside kinds t :=
  ⟨fun _ _ => rfl, rfl, rfl, rfl⟩

theorem trans (head : before.AgreesBeside kinds middle) (tail : middle.AgreesBeside kinds after)
    : before.AgreesBeside kinds after :=
  ⟨fun kind apart => (tail.live kind apart).trans (head.live kind apart),
    tail.archive.trans head.archive, tail.log.trans head.log, tail.ledger.trans head.ledger⟩

theorem mono (h : before.AgreesBeside kinds after) (weaker : ∀ kind, kinds kind → more kind)
    : before.AgreesBeside more after :=
  ⟨fun kind apart => h.live kind fun own => apart (weaker kind own), h.archive, h.log, h.ledger⟩

theorem setLive (t : Tables) {kind : Kind} (rows : Table (LiveRow kind)) (own : kinds kind)
    : t.AgreesBeside kinds (t.setLive kind rows) := by
  refine ⟨?_, rfl, rfl, rfl⟩
  intro other apart
  exact setLive_live_other t kind rows fun same => apart (same ▸ own)

theorem liveRow?_eq (h : before.AgreesBeside kinds after) {kind : Kind} (apart : ¬ kinds kind)
    (key : Int)
    : after.liveRow? kind key = before.liveRow? kind key := by
  rw [liveRow?, h.live kind apart, liveRow?]

end AgreesBeside

end Tables

-----------------------------------------------------------------------------------------
-- The parts of an update
-----------------------------------------------------------------------------------------

namespace Store

variable {s after : Store} {found : Option Profile}

/-- (s.AmendsProfiles amend after) holds if every live row of a profile is amended, and nothing
else is changed.
-/
structure AmendsProfiles (s : Store)
    (amend : (profile : Profile) → LiveRow profile.kind → LiveRow profile.kind) (after : Store)
    : Prop where
  rows : ∀ (profile : Profile) key,
    after.tables.liveRow? profile.kind key
      = (s.tables.liveRow? profile.kind key).map (amend profile)
  present : ∀ kind, (after.tables.live kind).isSome = (s.tables.live kind).isSome
  beside : s.tables.AgreesBeside Kind.IsOfProfile after.tables
  sequences : after.sequences = s.sequences

/-- A profile that is found is amended where its rows pass a test. -/
theorem AmendsProfiles.of_yields {test : (profile : Profile) → LiveRow profile.kind → Bool}
    {change : (profile : Profile) → LiveRow profile.kind → LiveRow profile.kind}
    (h : (∃ given amended, found = some given
        ∧ s.Yields (updateLive given.kind (test given) (change given)) amended after)
      ∨ found = none ∧ after = s)
    : s.AmendsProfiles
        (fun profile row =>
          if found = some profile ∧ test profile row = true then change profile row else row)
        after := by
  rcases h with ⟨given, amended, rfl, h⟩ | ⟨rfl, rfl⟩
  · obtain ⟨rows, present, -, -, rfl⟩ := yields_updateLive_iff.mp h
    refine ⟨?_, ?_, .setLive _ _ ⟨given, rfl⟩, rfl⟩
    · intro profile key
      by_cases same : given = profile
      · subst profile
        simp [Tables.liveRow?_of_live present, Table.find?_map]
      · have apart : given.kind ≠ profile.kind := fun h => same (Profile.kind_injective h)
        simp [same, Tables.liveRow?_setLive_other _ _ _ _ apart]
    · intro kind
      by_cases same : given.kind = kind
      · subst kind
        simp [present]
      · rw [Tables.setLive_live_other _ _ _ same]
  · exact ⟨by simp, fun _ => rfl, .refl _, rfl⟩

/-- (s.CreatesProfile found content after) holds if one row of the profile that is found is
created under the next key of its table, and nothing else is changed.
-/
structure CreatesProfile (s : Store) (found : Option Profile)
    (content : (profile : Profile) → Content profile.kind) (after : Store) : Prop where
  free : ∀ profile, found = some profile →
    s.tables.liveRow? profile.kind (s.sequences.live profile.kind) = none
  rows : ∀ (profile : Profile) key,
    after.tables.liveRow? profile.kind key
      = if found = some profile ∧ key = s.sequences.live profile.kind then
          some (.fresh (content profile))
        else s.tables.liveRow? profile.kind key
  beside : s.tables.AgreesBeside Kind.IsOfProfile after.tables
  drawn : ∀ profile, found = some profile → after.sequences = (s.drawn profile.kind).sequences

theorem CreatesProfile.of_yields {content : (profile : Profile) → Content profile.kind}
    (h : (∃ given key, found = some given
        ∧ s.Yields (createLive given.kind (content given)) key after)
      ∨ found = none ∧ after = s)
    : s.CreatesProfile found content after := by
  rcases h with ⟨given, key, rfl, h⟩ | ⟨rfl, rfl⟩
  · obtain ⟨rows, present, -, -, -, -, free, rfl, rfl⟩ := yields_createLive_iff.mp h
    refine ⟨?_, ?_, .setLive _ _ ⟨given, rfl⟩, ?_⟩
    · rintro profile ⟨⟩
      rw [Tables.liveRow?_of_live present]
      simpa [Table.contains] using free
    · intro profile key
      by_cases same : given = profile
      · subst profile
        simp [Tables.liveRow?_of_live present, Table.find?_insert]
      · have apart : given.kind ≠ profile.kind := fun h => same (Profile.kind_injective h)
        simp [same, Tables.liveRow?_setLive_other _ _ _ _ apart]
    · rintro profile ⟨⟩
      rfl
  · exact ⟨by simp, by simp, .refl _, by simp⟩

end Store

-----------------------------------------------------------------------------------------
-- The whole update
-----------------------------------------------------------------------------------------

namespace UserUpdate

variable (u : UserUpdate) (s : Store) (name : String) (role : Role) (profile : Profile)

/-- The keys of the rows of a profile that are flagged by an update of a user who had the given
name and role.
-/
def flags : Set Int :=
  { key | role ≠ u.role ∧ role.profile? = some profile ∧ key ∈ s.tables.profiles profile name }

/-- The keys of the rows of a profile that take over the username and the email of the update. -/
def syncs : Set Int :=
  { key | role = u.role ∧ role.profile? = some profile
    ∧ key ∈ s.tables.activeProfiles profile name }

/-- The key of the row of a profile that is created by the update, if one is. -/
def creates : Set Int :=
  { key | role ≠ u.role ∧ u.role.profile? = some profile
    ∧ key = s.sequences.live profile.kind }

end UserUpdate

/-- (u.Effect now name role before after) holds if an update made now, of a user who had the given
name and role, has led from before to after. The row of the user has the new values; the rows of
profiles that it flags, syncs or creates are as described; and all other rows of all tables are as
they were.
-/
structure UserUpdate.Effect (u : UserUpdate) (now : Instant) (name : String) (role : Role)
    (before after : Store) : Prop where
  user : ∃ row : LiveRow .user,
    before.tables.liveRow? .user u.key = some row
    ∧ row.content.username = some name ∧ row.content.roleName = some role.name
    ∧ after.tables.liveRow? .user u.key = some { row with
        content := { (row.content : UserContent) with
          username := some u.username, email := u.email, password := some u.password
          roleName := some u.role.name } }
  users : ∀ key, key ≠ u.key → after.tables.liveRow? .user key = before.tables.liveRow? .user key
  flagged : ∀ profile, ∀ key ∈ u.flags before name role profile, ∃ row,
    before.tables.liveRow? profile.kind key = some row
    ∧ after.tables.liveRow? profile.kind key
      = some { row with archived := some true, archivedAt := some now }
  synced : ∀ profile, ∀ key ∈ u.syncs before name role profile, ∃ row content,
    before.tables.liveRow? profile.kind key = some row
    ∧ after.tables.liveRow? profile.kind key = some { row with content := content }
    ∧ profile.details content
      = { profile.details row.content with username := some u.username, email := u.email }
  created : ∀ profile, ∀ key ∈ u.creates before role profile, ∃ content,
    before.tables.liveRow? profile.kind key = none
    ∧ after.tables.liveRow? profile.kind key
      = some { content := content, archived := some false, archivedAt := none }
    ∧ profile.details content =
      { username := some u.username, name := some u.username, contact := some "09000000000"
        email := u.email, address := some "Address not provided", profile := none
        login := some u.username, password := some u.password }
    ∧ after.sequences.live profile.kind = key + 1
  kept : ∀ (profile : Profile) key,
    key ∉ u.flags before name role profile → key ∉ u.syncs before name role profile →
    key ∉ u.creates before role profile →
    after.tables.liveRow? profile.kind key = before.tables.liveRow? profile.kind key
  beside : before.tables.AgreesBeside Kind.IsOfPeople after.tables

namespace Store

variable {s after : Store} {u : UserUpdate} {now : Instant} {name : String} {role : Role}

/-- A user's row that is replaced takes the new values; the rows of other users and of profiles
are as they were.
-/
theorem Yields.rows_replace (h : s.Yields u.replace (name, role) after)
    : (∃ row : LiveRow .user,
        s.tables.liveRow? .user u.key = some row
        ∧ row.content.username = some name ∧ row.content.roleName = some role.name
        ∧ after.tables.liveRow? .user u.key = some (u.row row))
      ∧ (∀ key, key ≠ u.key → after.tables.liveRow? .user key = s.tables.liveRow? .user key)
      ∧ s.tables.AgreesBeside (· = .user) after.tables := by
  obtain ⟨users, row, present, found, -, named, ofRole, -, -, rfl⟩ := yields_replace_iff.mp h
  have username : (row.content : UserContent).username = some name := by
    cases there : (row.content : UserContent).username <;> simp_all [answered]
  refine ⟨⟨row, ?_, username, UserContent.role_eq_ok_iff.mp ofRole, ?_⟩, ?_, .setLive _ _ rfl⟩
  · rw [Tables.liveRow?_of_live present, found]
  · simp [Table.find?_insert]
  · intro key other
    simp [Table.find?_insert, other, Tables.liveRow?_of_live present]

/-- Flagging the old profile, if there is one, amends the rows with the old username. -/
theorem Yields.amends_flagOld {found : Option Profile} {value : PUnit}
    (h : s.Yields (found.forM fun profile => do let _ ← Flag.setProfiles profile name now)
      value after)
    : s.AmendsProfiles
        (fun profile row =>
          if found = some profile ∧ Flag.carries profile name row = true then row.flag now else row)
        after := by
  simp only [yields_forM_option_iff, yields_bind_iff, yields_pure_iff, yields_setProfiles_iff] at h
  refine .of_yields ?_
  rcases h with ⟨profile, planned, flagged, _, ⟨-, flags⟩, -, rfl⟩ | none
  · exact .inl ⟨profile, flagged, planned, flags⟩
  · exact .inr none

/-- Syncing the profile that stays, if there is one, amends the active rows with the old username.
-/
theorem Yields.amends_sync {found : Option Profile} {value : PUnit}
    (h : s.Yields (found.forM fun profile => u.sync profile name) value after)
    : s.AmendsProfiles
        (fun profile row =>
          if found = some profile ∧ UserUpdate.keeps profile name row = true then
            u.syncedRow profile row
          else row)
        after := by
  simp only [yields_forM_option_iff, yields_sync_iff] at h
  refine .of_yields ?_
  rcases h with ⟨profile, planned, -, synced, syncs⟩ | none
  · exact .inl ⟨profile, synced, planned, syncs⟩
  · exact .inr none

/-- Creating the new profile, if there is one, creates one row. -/
theorem Yields.creates_createNew {found : Option Profile} {value : PUnit}
    (h : s.Yields
      (found.forM fun profile => do let _ ← createLive profile.kind (u.newProfile profile))
      value after)
    : s.CreatesProfile found u.newProfile after := by
  simp only [yields_forM_option_iff, yields_bind_iff, yields_pure_iff] at h
  refine .of_yields ?_
  rcases h with ⟨profile, planned, key, _, creates, -, rfl⟩ | none
  · exact .inl ⟨profile, key, planned, creates⟩
  · exact .inr none

/-- An update goes through four stores: it replaces the user, flags the old profile, creates the
new one and syncs the one that stays, as far as the plan asks for them.
-/
theorem Yields.stages_update {plan : ProfilePlan}
    (h : s.Yields (u.carryOut now) (name, role, plan) after)
    : plan = .ofRoles role u.role
      ∧ ∃ replaced flagged created,
        s.Yields u.replace (name, role) replaced
        ∧ replaced.AmendsProfiles
            (fun profile row =>
              if plan.flagOld = some profile ∧ Flag.carries profile name row = true then
                row.flag now
              else row)
            flagged
        ∧ flagged.CreatesProfile plan.createNew u.newProfile created
        ∧ created.AmendsProfiles
            (fun profile row =>
              if plan.sync = some profile ∧ UserUpdate.keeps profile name row = true then
                u.syncedRow profile row
              else row)
            after := by
  rw [UserUpdate.carryOut_eq] at h
  simp only [yields_bind_iff, yields_pure_iff] at h
  obtain ⟨⟨oldName, role⟩, replaced, hr, _, flagged, hf, _, created, hc, _, _, hs, same, rfl⟩ := h
  cases same
  exact ⟨rfl, replaced, flagged, created, hr, hf.amends_flagOld, hc.creates_createNew,
    hs.amends_sync⟩

/-- What a plan asks for is told by the roles. -/
theorem flagOld_ofRoles {before after : Role} {profile : Profile}
    : (ProfilePlan.ofRoles before after).flagOld = some profile
      ↔ before ≠ after ∧ before.profile? = some profile := by
  rw [ProfilePlan.ofRoles]
  split <;> simp [*]

theorem createNew_ofRoles {before after : Role} {profile : Profile}
    : (ProfilePlan.ofRoles before after).createNew = some profile
      ↔ before ≠ after ∧ after.profile? = some profile := by
  rw [ProfilePlan.ofRoles]
  split <;> simp [*]

theorem sync_ofRoles {before after : Role} {profile : Profile}
    : (ProfilePlan.ofRoles before after).sync = some profile
      ↔ before = after ∧ before.profile? = some profile := by
  rw [ProfilePlan.ofRoles]
  split <;> simp [*]

theorem carries_iff {profile : Profile} {row : LiveRow profile.kind}
    : Flag.carries profile name row = true ↔ profile.username row.content = some name := by
  rw [Flag.carries, beq_iff_eq]

theorem keeps_iff {profile : Profile} {row : LiveRow profile.kind}
    : UserUpdate.keeps profile name row = true
      ↔ profile.username row.content = some name ∧ row.archived = some false := by
  rw [UserUpdate.keeps, Bool.and_eq_true, carries_iff, beq_iff_eq]

/-- The profile rows after an update: one may be created, and each of the others is flagged or
synced, or is as it was.
-/
theorem Yields.profileRows_update {plan : ProfilePlan}
    (h : s.Yields (u.carryOut now) (name, role, plan) after) (profile : Profile)
    : (∀ key ∈ u.creates s role profile,
        s.tables.liveRow? profile.kind key = none
        ∧ after.tables.liveRow? profile.kind key = some (.fresh (u.newProfile profile))
        ∧ after.sequences.live profile.kind = key + 1)
      ∧ ∀ key, key ∉ u.creates s role profile →
        after.tables.liveRow? profile.kind key
          = (s.tables.liveRow? profile.kind key).map fun row =>
            if role ≠ u.role ∧ role.profile? = some profile
                ∧ profile.username row.content = some name then
              row.flag now
            else if role = u.role ∧ role.profile? = some profile
                ∧ profile.username row.content = some name ∧ row.archived = some false then
              u.syncedRow profile row
            else row := by
  obtain ⟨rfl, replaced, flagged, created, hr, hf, hc, hs⟩ := h.stages_update
  obtain ⟨-, -, aside⟩ := hr.rows_replace
  -- No key is drawn before the new profile, so its key is the next one of the store before.
  have drawn : flagged.sequences = s.sequences := hf.sequences.trans hr.sequences_replace
  have rows (key : Int) := hs.rows profile key
  simp only [hc.rows, hf.rows, aside.liveRow?_eq profile.kind_ne_user, drawn, flagOld_ofRoles,
    createNew_ofRoles, sync_ofRoles, carries_iff, keeps_iff, and_assoc] at rows
  constructor
  · rintro key ⟨changes, new, rfl⟩
    have planned := createNew_ofRoles.mpr ⟨changes, new⟩
    have free := hc.free profile planned
    rw [hf.rows, aside.liveRow?_eq profile.kind_ne_user, drawn, Option.map_eq_none_iff] at free
    have next := hc.drawn profile planned
    refine ⟨free, ?_, ?_⟩
    · rw [rows, if_pos ⟨changes, new, rfl⟩]
      simp [changes]
    · rw [hs.sequences, next, sequences_drawn_live, if_pos rfl, drawn]
  · intro key apart
    have elsewhere : ¬ (role ≠ u.role ∧ u.role.profile? = some profile
        ∧ key = s.sequences.live profile.kind) := apart
    rw [rows, if_neg elsewhere]
    cases s.tables.liveRow? profile.kind key with
    | none => rfl
    | some row =>
        -- A plan asks for flags or for syncs, and never for both.
        by_cases same : role = u.role
        · simp [same]
        · simp [same]

/-- An update that is carried out has its effect. -/
theorem Yields.effect {plan : ProfilePlan} (h : s.Yields (u.carryOut now) (name, role, plan) after)
    : u.Effect now name role s after := by
  obtain ⟨-, replaced, flagged, created, hr, hf, hc, hs⟩ := h.stages_update
  obtain ⟨⟨row, found, named, ofRole, put⟩, others, aside⟩ := hr.rows_replace
  have notUser : ¬ Kind.IsOfProfile .user := fun ⟨profile, same⟩ => profile.kind_ne_user same
  have user (key : Int) : after.tables.liveRow? .user key = replaced.tables.liveRow? .user key := by
    rw [hs.beside.liveRow?_eq notUser, hc.beside.liveRow?_eq notUser, hf.beside.liveRow?_eq notUser]
  have people (kind : Kind) : kind.IsOfProfile → kind.IsOfPeople := by
    rintro ⟨profile, rfl⟩
    exact profile.kind_isOfPeople
  have beside := ((hf.beside.trans hc.beside).trans hs.beside).mono people
  have apart (kind : Kind) : kind = .user → kind.IsOfPeople := by
    rintro rfl
    trivial
  refine {
    user := ⟨row, found, named, ofRole, (user u.key).trans put⟩
    users := fun key other => (user key).trans (others key other)
    flagged := ?_
    synced := ?_
    created := ?_
    kept := ?_
    beside := (aside.mono apart).trans beside
  }
  · rintro profile key ⟨changes, old, row, found, carries⟩
    obtain ⟨created, rows⟩ := h.profileRows_update profile
    refine ⟨row, found, ?_⟩
    rw [rows key, found]
    · simp [changes, old, carries, LiveRow.flag]
    · intro new
      rw [(created key new).1] at found
      cases found
  · rintro profile key ⟨stays, own, row, found, carries, active⟩
    obtain ⟨-, rows⟩ := h.profileRows_update profile
    refine ⟨row, u.synced profile row.content, found, ?_, u.details_synced profile row.content⟩
    rw [rows key fun new => new.1 stays, found]
    subst role
    simp [own, carries, active, UserUpdate.syncedRow]
  · intro profile key new
    obtain ⟨free, put, next⟩ := (h.profileRows_update profile).1 key new
    exact ⟨u.newProfile profile, free, put, u.details_newProfile profile, next⟩
  · intro profile key unflagged unsynced uncreated
    rw [(h.profileRows_update profile).2 key uncreated]
    cases found : s.tables.liveRow? profile.kind key with
    | none => rfl
    | some row =>
        rw [Option.map_some, if_neg, if_neg]
        · rintro ⟨stays, own, carries, active⟩
          exact unsynced ⟨stays, own, row, found, carries, active⟩
        · rintro ⟨changes, old, carries⟩
          exact unflagged ⟨changes, old, row, found, carries⟩

end Store

end AdoptionRecords
