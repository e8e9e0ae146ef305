import AdoptionRecords.Proofs.Guarantees.UserUpdates

/-! The link between users and profiles, which is a username only. In well linked tables each user
has at most one active profile, in the table of the user's role. Updates of users keep the tables
well linked as long as no user takes a username that is somebody else's.
-/

namespace AdoptionRecords

open Calendar

/-- The profile of a user: that of the role, if it is a known one that has a profile. -/
def UserContent.profile? (c : UserContent) : Option Profile :=
  (c.roleName.bind Role.read?).bind Role.profile?

theorem UserContent.profile?_of_roleName {c : UserContent} {role : Role}
    (h : c.roleName = some role.name)
    : c.profile? = role.profile? := by
  rw [profile?, h, Option.bind_some, Role.read?_eq_some_iff.mpr rfl, Option.bind_some]

namespace Tables

/-- (t.Bears user name) holds if the user is live and has the given username. -/
def Bears (t : Tables) (user : Int) (name : String) : Prop :=
  ∃ row : LiveRow .user, t.liveRow? .user user = some row
    ∧ (row.content : UserContent).username = some name

/-- The tables are well linked if no two live users have the same username, and no active profile
has the username of a live user, but for at most one in the table of that user's role.
-/
structure WellLinked (t : Tables) : Prop where
  distinct : ∀ a b name, t.Bears a name → t.Bears b name → a = b
  single : ∀ user (row : LiveRow .user) name profile, t.liveRow? .user user = some row →
    (row.content : UserContent).username = some name →
    (row.content : UserContent).profile? = some profile →
    (t.activeProfiles profile name).Subsingleton
  unrelated : ∀ user (row : LiveRow .user) name profile, t.liveRow? .user user = some row →
    (row.content : UserContent).username = some name →
    (row.content : UserContent).profile? ≠ some profile →
    t.activeProfiles profile name = ∅

end Tables

/-- The username of an update is free if the user has it already, or no other live user and no
active profile has it.
-/
def UserUpdate.NameIsFree (u : UserUpdate) (t : Tables) : Prop :=
  t.Bears u.key u.username
  ∨ (∀ user, t.Bears user u.username → user = u.key)
    ∧ ∀ profile, t.activeProfiles profile u.username = ∅

-----------------------------------------------------------------------------------------
-- Decisions from the entries of tables
-----------------------------------------------------------------------------------------

namespace Tables

variable {t : Tables} {profile : Profile} {name : String} {user key : Int}

theorem mem_activeProfiles
    : key ∈ t.activeProfiles profile name
      ↔ ∃ row, (key, row) ∈ ((t.live profile.kind).getD .empty).entries
        ∧ UserUpdate.keeps profile name row = true := by
  simp only [activeProfiles, Set.mem_ofPred_eq, mem_liveEntries, Store.keeps_iff]

theorem bears_iff_mem
    : t.Bears user name
      ↔ ∃ entry ∈ ((t.live .user).getD .empty).entries,
        entry.1 = user ∧ (entry.2.content : UserContent).username = some name := by
  simp only [Bears, Prod.exists, mem_liveEntries]
  constructor
  · rintro ⟨row, found, named⟩
    exact ⟨user, row, found, rfl, named⟩
  · rintro ⟨_, row, found, rfl, named⟩
    exact ⟨row, found, named⟩

theorem activeProfiles_eq_empty_iff
    : t.activeProfiles profile name = ∅
      ↔ ∀ entry ∈ ((t.live profile.kind).getD .empty).entries,
        UserUpdate.keeps profile name entry.2 = false := by
  simp only [Set.eq_empty_iff_forall_notMem, mem_activeProfiles, not_exists, not_and,
    Bool.not_eq_true, Prod.forall]

theorem subsingleton_activeProfiles_iff
    : (t.activeProfiles profile name).Subsingleton
      ↔ ∀ a ∈ ((t.live profile.kind).getD .empty).entries,
        ∀ b ∈ ((t.live profile.kind).getD .empty).entries,
          UserUpdate.keeps profile name a.2 = true → UserUpdate.keeps profile name b.2 = true →
          a.1 = b.1 := by
  simp only [Set.Subsingleton, mem_activeProfiles, Prod.forall]
  constructor
  · intro h a row found b row' found' active active'
    exact h ⟨row, found, active⟩ ⟨row', found', active'⟩
  · rintro h a ⟨row, found, active⟩ b ⟨row', found', active'⟩
    exact h a row found b row' found' active active'

instance : Decidable (t.Bears user name) :=
  decidable_of_iff _ bears_iff_mem.symm

instance : Decidable (t.activeProfiles profile name = ∅) :=
  decidable_of_iff _ activeProfiles_eq_empty_iff.symm

instance : Decidable (t.activeProfiles profile name).Subsingleton :=
  decidable_of_iff _ subsingleton_activeProfiles_iff.symm

theorem wellLinked_iff
    : t.WellLinked
      ↔ ∀ entry ∈ ((t.live .user).getD .empty).entries,
        ∀ name ∈ (entry.2.content : UserContent).username,
          (∀ other ∈ ((t.live .user).getD .empty).entries,
            (other.2.content : UserContent).username = some name → other.1 = entry.1)
          ∧ ∀ profile ∈ [Profile.adopter, .petOwner],
            if (entry.2.content : UserContent).profile? = some profile then
              (t.activeProfiles profile name).Subsingleton
            else t.activeProfiles profile name = ∅ := by
  simp only [Prod.forall, mem_liveEntries, Option.mem_def]
  constructor
  · intro h user row found name named
    refine ⟨?_, fun profile _ => ?_⟩
    · intro other row' found' named'
      exact h.distinct other user name ⟨row', found', named'⟩ ⟨row, found, named⟩
    · split
      · exact h.single user row name profile found named ‹_›
      · exact h.unrelated user row name profile found named ‹_›
  · intro h
    have known (profile : Profile) : profile ∈ [Profile.adopter, .petOwner] := by
      cases profile <;> decide
    constructor
    · rintro a b name ⟨row, found, named⟩ ⟨row', found', named'⟩
      exact (h b row' found' name named').1 a row found named
    · intro user row name profile found named own
      simpa [own] using (h user row found name named).2 profile (known profile)
    · intro user row name profile found named other
      simpa [other] using (h user row found name named).2 profile (known profile)

instance : Decidable t.WellLinked :=
  decidable_of_iff _ wellLinked_iff.symm

end Tables

theorem UserUpdate.nameIsFree_iff {u : UserUpdate} {t : Tables}
    : u.NameIsFree t
      ↔ t.Bears u.key u.username
        ∨ (∀ entry ∈ ((t.live .user).getD .empty).entries,
            (entry.2.content : UserContent).username = some u.username → entry.1 = u.key)
          ∧ ∀ profile ∈ [Profile.adopter, .petOwner], t.activeProfiles profile u.username = ∅ := by
  refine or_congr_right (and_congr ?_ ⟨fun h profile _ => h profile, fun h profile => h profile ?_⟩)
  · simp only [Tables.bears_iff_mem, Prod.forall, Prod.exists]
    constructor
    · intro h user row found named
      exact h user ⟨user, row, found, rfl, named⟩
    · rintro h user ⟨_, row, found, rfl, named⟩
      exact h _ row found named
  · cases profile <;> decide

instance (u : UserUpdate) (t : Tables) : Decidable (u.NameIsFree t) :=
  decidable_of_iff _ UserUpdate.nameIsFree_iff.symm

-----------------------------------------------------------------------------------------
-- One update
-----------------------------------------------------------------------------------------

theorem Profile.username_details {profile : Profile} {content : Content profile.kind}
    : (profile.details content).username = profile.username content := by
  cases profile <;> rfl

namespace UserUpdate.Effect

variable {u : UserUpdate} {now : Instant} {name : String} {role : Role} {before after : Store}
  {profile : Profile} {other : String}

/-- The active profiles with a username after an update are those that it synced or created, if it
is the new username, and those that were active with the username before and that it left alone.
-/
theorem mem_activeProfiles_iff (h : u.Effect now name role before after) {key : Int}
    : key ∈ after.tables.activeProfiles profile other
      ↔ (key ∈ u.syncs before name role profile ∪ u.creates before role profile
          ∧ other = u.username)
        ∨ (key ∈ before.tables.activeProfiles profile other
          ∧ key ∉ u.flags before name role profile ∧ key ∉ u.syncs before name role profile) := by
  -- The effect tells of each row by what was done to it, so the cases are these.
  by_cases new : key ∈ u.creates before role profile
  · obtain ⟨content, free, put, details, -⟩ := h.created profile key new
    have named : profile.username content = some u.username := by
      rw [← Profile.username_details, details]
    simp [Tables.activeProfiles, put, named, free, new, eq_comm]
  by_cases flagged : key ∈ u.flags before name role profile
  · obtain ⟨row, -, put⟩ := h.flagged profile key flagged
    have unsynced : key ∉ u.syncs before name role profile := fun synced => flagged.1 synced.1
    simp [Tables.activeProfiles, put, new, flagged, unsynced]
  by_cases synced : key ∈ u.syncs before name role profile
  · obtain ⟨row, content, found, put, details⟩ := h.synced profile key synced
    have named : profile.username content = some u.username := by
      rw [← Profile.username_details, details]
    have active : row.archived = some false := by
      obtain ⟨-, -, row', found', -, active⟩ := synced
      rw [found, Option.some_inj] at found'
      rwa [found']
    simp [Tables.activeProfiles, put, named, active, new, synced, eq_comm]
  · have kept := h.kept profile key flagged synced new
    simp [Tables.activeProfiles, kept, new, flagged, synced]

/-- Under another username than the new one, an update leaves no more active profiles than there
were.
-/
theorem activeProfiles_subset (h : u.Effect now name role before after) (apart : other ≠ u.username)
    : after.tables.activeProfiles profile other ⊆ before.tables.activeProfiles profile other := by
  intro key active
  rcases h.mem_activeProfiles_iff.mp active with ⟨-, same⟩ | ⟨active, -, -⟩
  · exact (apart same).elim
  · exact active

/-- After an update, a user bears the new username if it is the one who was updated, and otherwise
the username that the user had.
-/
theorem bears_iff (h : u.Effect now name role before after) {user : Int}
    : after.tables.Bears user other
      ↔ if user = u.key then other = u.username else before.tables.Bears user other := by
  by_cases own : user = u.key
  · subst own
    obtain ⟨row, -, -, -, put⟩ := h.user
    simp [Tables.Bears, put, eq_comm]
  · rw [Tables.Bears, h.users user own, if_neg own, Tables.Bears]

/-- The row of the user who was updated has the new username, and the role of the update. -/
theorem of_own_row (h : u.Effect now name role before after) {row : LiveRow .user}
    (found : after.tables.liveRow? .user u.key = some row)
    (named : (row.content : UserContent).username = some other)
    : other = u.username ∧ (row.content : UserContent).profile? = u.role.profile? := by
  obtain ⟨old, -, -, -, put⟩ := h.user
  cases found.symm.trans put
  exact ⟨(Option.some.inj named).symm, UserContent.profile?_of_roleName rfl⟩

end UserUpdate.Effect

namespace Tables.WellLinked

variable {u : UserUpdate} {now : Instant} {name : String} {role : Role} {before after : Store}

/-- No other user has a username that is free for an update. -/
theorem apart (linked : before.tables.WellLinked) (free : u.NameIsFree before.tables) {user : Int}
    {other : String} (bears : before.tables.Bears user other) (apart : user ≠ u.key)
    : other ≠ u.username := by
  rintro rfl
  rcases free with own | ⟨nobody, -⟩
  · exact apart (linked.distinct user u.key _ bears own)
  · exact apart (nobody user bears)

/-- The row of another user is as it was, and no profile has become active under that username. -/
theorem of_other_row (linked : before.tables.WellLinked) (free : u.NameIsFree before.tables)
    (h : u.Effect now name role before after) {user : Int} {row : LiveRow .user} {other : String}
    {profile : Profile} (apart : user ≠ u.key)
    (found : after.tables.liveRow? .user user = some row)
    (named : (row.content : UserContent).username = some other)
    : before.tables.liveRow? .user user = some row
      ∧ after.tables.activeProfiles profile other
        ⊆ before.tables.activeProfiles profile other := by
  rw [h.users user apart] at found
  exact ⟨found, h.activeProfiles_subset (linked.apart free ⟨row, found, named⟩ apart)⟩

/-- In well linked tables all active profiles under the new username are those that the update
synced or created, if that username was free.
-/
theorem activeProfiles_eq (linked : before.tables.WellLinked) (free : u.NameIsFree before.tables)
    (h : u.Effect now name role before after) (profile : Profile)
    : after.tables.activeProfiles profile u.username
      = u.syncs before name role profile ∪ u.creates before role profile := by
  ext key
  rw [h.mem_activeProfiles_iff]
  constructor
  · rintro (⟨written, -⟩ | ⟨active, unflagged, unsynced⟩)
    · exact written
    · -- An active profile with the new username is the user's own, and so was flagged or synced.
      exfalso
      rcases free with own | ⟨-, none⟩
      · obtain ⟨row, found, named, ofRole, -⟩ := h.user
        obtain ⟨row', found', named'⟩ := own
        cases found.symm.trans found'
        cases named.symm.trans named'
        by_cases mine : role.profile? = some profile
        · by_cases stays : role = u.role
          · exact unsynced ⟨stays, mine, active⟩
          · obtain ⟨row, found, carries, -⟩ := active
            exact unflagged ⟨stays, mine, row, found, carries⟩
        · rw [← UserContent.profile?_of_roleName ofRole] at mine
          rw [linked.unrelated u.key row _ profile found named mine] at active
          exact active
      · rw [none profile] at active
        exact active
  · exact fun written => .inl ⟨written, rfl⟩

/-- An update syncs or creates at most one profile of a kind. -/
theorem written_subsingleton (linked : before.tables.WellLinked)
    (h : u.Effect now name role before after) (profile : Profile)
    : (u.syncs before name role profile ∪ u.creates before role profile).Subsingleton := by
  obtain ⟨row, found, named, ofRole, -⟩ := h.user
  rintro a (⟨stays, own, active⟩ | ⟨moves, -, rfl⟩) b (⟨stays', -, active'⟩ | ⟨moves', -, rfl⟩)
  · rw [← UserContent.profile?_of_roleName ofRole] at own
    exact linked.single u.key row name profile found named own active active'
  · exact (moves' stays).elim
  · exact (moves stays').elim
  · rfl

/-- An update of a user of well linked tables leaves them well linked, if its username is free. -/
theorem update (linked : before.tables.WellLinked) (free : u.NameIsFree before.tables)
    (h : u.Effect now name role before after)
    : after.tables.WellLinked := by
  constructor
  · intro a b other ha hb
    rw [h.bears_iff] at ha hb
    by_cases first : a = u.key <;> by_cases second : b = u.key
    · rw [first, second]
    · rw [if_pos first] at ha
      rw [if_neg second] at hb
      exact (linked.apart free hb second ha).elim
    · rw [if_neg first] at ha
      rw [if_pos second] at hb
      exact (linked.apart free ha first hb).elim
    · rw [if_neg first] at ha
      rw [if_neg second] at hb
      exact linked.distinct a b other ha hb
  · intro user row other profile found named ofRole
    by_cases same : user = u.key
    · subst same
      obtain ⟨rfl, -⟩ := h.of_own_row found named
      rw [linked.activeProfiles_eq free h]
      exact linked.written_subsingleton h profile
    · obtain ⟨found, fewer⟩ := linked.of_other_row free h same found named
      exact (linked.single user row other profile found named ofRole).anti fewer
  · intro user row other profile found named ofRole
    by_cases same : user = u.key
    · subst same
      obtain ⟨rfl, ofUpdate⟩ := h.of_own_row found named
      rw [linked.activeProfiles_eq free h, Set.eq_empty_iff_forall_notMem]
      rw [ofUpdate] at ofRole
      rintro key (⟨rfl, stays, -⟩ | ⟨-, moves, -⟩)
      · exact ofRole stays
      · exact ofRole moves
    · obtain ⟨found, fewer⟩ := linked.of_other_row free h same found named
      exact Set.subset_eq_empty fewer (linked.unrelated user row other profile found named ofRole)

/-- A user of well linked tables who is moved into a role with a profile has one active profile
then.
-/
theorem existsUnique_of_moved (linked : before.tables.WellLinked)
    (free : u.NameIsFree before.tables) (h : u.Effect now name role before after)
    (moves : role ≠ u.role) {profile : Profile} (new : u.role.profile? = some profile)
    : ∃! key, key ∈ after.tables.activeProfiles profile u.username := by
  rw [linked.activeProfiles_eq free h]
  refine ⟨before.sequences.live profile.kind, .inr ⟨moves, new, rfl⟩, ?_⟩
  intro key written
  exact linked.written_subsingleton h profile written (.inr ⟨moves, new, rfl⟩)

end Tables.WellLinked

-----------------------------------------------------------------------------------------
-- Runs of updates
-----------------------------------------------------------------------------------------

namespace Database

/-- A request is an update of a user to a username that is free. -/
def TakesFreeName (d : Database) (r : Request) : Prop :=
  ∃ u : UserUpdate, r = .updateUser u ∧ u.NameIsFree d.store.tables

variable {d : Database} {requests : List Request}

/-- Tables stay well linked after an update to a username that is free, whether it fails or not.
-/
theorem wellLinked_update {u : UserUpdate} (linked : d.store.tables.WellLinked)
    (free : u.NameIsFree d.store.tables)
    : ((updateUser u).run d).2.store.tables.WellLinked := by
  cases answer : ((updateUser u).run d).1 with
  | error fault =>
      rw [(untouched_of_updateUser answer).tables]
      exact linked
  | ok change =>
      obtain ⟨-, name, role, -, carried⟩ := yields_of_updateUser answer
      exact linked.update free carried.effect

/-- Tables stay well linked after updates to usernames that are free, by induction on them. -/
theorem wellLinked_updates (linked : d.store.tables.WellLinked)
    (free : d.Throughout TakesFreeName requests)
    : (d.after requests).store.tables.WellLinked := by
  induction requests generalizing d with
  | nil => exact linked
  | cons r rest ih =>
      obtain ⟨⟨u, rfl, own⟩, free⟩ := free
      exact ih (wellLinked_update linked own) free

end Database

end AdoptionRecords
