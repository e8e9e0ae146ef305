import AdoptionRecords.Proofs.History.Fates

/-! An archived owner has no active pets. An owner is let go only without active pets, and a pet
comes back only under a live owner; because no owner is both live and archived, neither side of the
guard is ever got around, as long as no pet is unflagged and none is created under an archived
owner.
-/

namespace AdoptionRecords

open Calendar

/-- No live pet that is not flagged belongs to an archived owner. -/
def Tables.Guarded (t : Tables) : Prop :=
  ∀ pet row owner, t.liveRow? .pet pet = some row → row.archived = some false →
    row.content.owner = some owner → ¬ t.IsArchived .petOwner owner

/-- A change respects the guard if it creates no pet under an archived owner, and changes live pets
in place only to flag them.
-/
def Change.RespectsGuard (s : Store) : Change → Prop
  | create .pet content _ =>
      ∀ owner, (content : PetContent).owner = some owner → ¬ s.tables.IsArchived .petOwner owner
  | amend .pet (.unflag _) | amend .pet (.revise _) => False
  | _ => True

/-- A request respects the guard if it creates no pet under an archived owner and unflags no pet. -/
def Request.RespectsGuard (d : Database) : Request → Prop
  | create .pet content =>
      ∀ owner, (content : PetContent).owner = some owner →
        ¬ d.store.tables.IsArchived .petOwner owner
  | unflagPet _ => False
  | _ => True

/-- What an update of a user can cause respects the guard: it leaves pets alone. -/
theorem Change.IsOfUpdate.respectsGuard {c : Change} (h : c.IsOfUpdate) (s : Store)
    : c.RespectsGuard s := by
  cases c with
  | create kind =>
      cases kind with
      | pet => exact h.elim
      | _ => trivial
  | amend kind amendment =>
      cases kind with
      | pet =>
          cases amendment with
          | unflag => exact h.elim
          | flag | revise => exact h.elim
      | _ => trivial
  | _ => exact h.elim

/-- What the calls of a transaction can cause respects the guard: they leave live pets alone. -/
theorem Change.IsOfCalls.respectsGuard {c : Change} {calls : List Call} (h : c.IsOfCalls calls)
    (s : Store)
    : c.RespectsGuard s := by
  cases c with
  | transition | note => trivial
  | amend kind amendment =>
      cases amendment with
      | flag => cases kind <;> trivial
      | unflag | revise => exact h.elim
  | _ => exact h.elim

/-- A change that archives a record respects the guard: it amends and creates nothing. -/
theorem Change.Archives.respectsGuard {c : Change} (h : c.Archives) (s : Store)
    : c.RespectsGuard s := by
  cases c with
  | transition => trivial
  | _ => exact h.elim

/-- A request that respects the guard causes only changes that do. -/
theorem Request.RespectsGuard.of_causes {r : Request} {d : Database} {s : Store} {c : Change}
    (h : r.RespectsGuard d) (caused : r.Causes d s c)
    : c.RespectsGuard s := by
  cases r with
  | create kind content =>
      obtain ⟨rfl, key, rfl⟩ := caused
      cases kind with
      | pet => exact h
      | _ => trivial
  | unflagPet => exact h.elim
  | updateUser => exact Change.IsOfUpdate.respectsGuard caused s
  | transact => exact Change.IsOfCalls.respectsGuard caused s
  | archiveRequests | archivePets => exact Change.Archives.respectsGuard caused s
  | retain =>
      rcases caused with archives | ⟨keep, rfl⟩
      · exact archives.respectsGuard s
      · trivial
  | flagPet =>
      cases caused
      trivial
  | transition | deleteUser | cleanUpLog | pruneLog | migrate =>
      obtain ⟨_, rfl⟩ := caused
      trivial
  | surroundings => exact caused.elim

/-- An owner who is let go has no active pets. -/
theorem Tables.LetsGo.inactive {t : Tables} {owner : Int} (h : t.LetsGo owner) {pet : Int}
    {row : LiveRow .pet} (found : t.liveRow? .pet pet = some row)
    (owned : row.content.owner = some owner)
    : row.archived ≠ some false := by
  intro active
  obtain ⟨-, pets, present, none⟩ := h
  rw [liveRow?_of_live present, Table.find?_eq_some_iff] at found
  have counted := List.countP_eq_zero.mp none _ found
  simp [owned, active] at counted

namespace Transition.Moves

variable {t : Transition} {now : Instant} {before moved : Tables}

/-- A live pet found after a transition was live before, or it came back to a live owner. -/
theorem pet_found {pet : Int} {row : LiveRow .pet} (h : t.Moves now before moved)
    (found : moved.liveRow? .pet pet = some row)
    : (t.kind = .pet ∧ ∃ owner, row.content.owner = some owner ∧ before.IsLive .petOwner owner)
      ∨ before.liveRow? .pet pet = some row := by
  by_cases own : t.kind = .pet ∧ t.key = pet
  · cases h with
    | @archive kind key _ _ live archived _ hl ha _ _ _ _ _ =>
        obtain ⟨rfl, rfl⟩ := own
        simp [Table.find?_erase] at found
    | @restore kind key _ _ live archived archivedRow hl ha there _ _ takesBack =>
        obtain ⟨rfl, rfl⟩ := own
        obtain ⟨again, owner, there', owned, ownerLive⟩ := takesBack rfl
        rw [Tables.archivedRow?_of_archive ha, there] at there'
        cases there'
        simp only [Tables.liveRow?_setLive_same, Table.find?_insert, if_true,
          Option.some.injEq] at found
        subst found
        exact .inl ⟨rfl, owner, owned, ownerLive⟩
    | permanentDelete => exact .inr found
  · exact .inr ((h.rows_of_other own).1 ▸ found)

/-- An owner found archived after a transition was archived before, or was let go. -/
theorem owner_archived {owner : Int} (h : t.Moves now before moved)
    (archived : moved.IsArchived .petOwner owner)
    : (t.kind = .petOwner ∧ before.LetsGo owner) ∨ before.IsArchived .petOwner owner := by
  by_cases own : t.kind = .petOwner ∧ t.key = owner
  · have places := h.places
    cases h with
    | archive _ _ _ _ _ _ letsGo =>
        obtain ⟨rfl, rfl⟩ := own
        exact .inl ⟨rfl, letsGo rfl⟩
    | restore =>
        obtain ⟨rfl, rfl⟩ := own
        exact .inr places.2.1
    | permanentDelete =>
        obtain ⟨rfl, rfl⟩ := own
        exact .inr places.1
  · rw [Tables.IsArchived, (h.rows_of_other own).2] at archived
    exact .inr archived

end Transition.Moves

namespace Tables.Guarded

variable {now : Instant} {s after : Store} {before moved : Tables}

/-- The guard holds of tables with no further active pets and no further archived owners. -/
theorem of_fewer (h : before.Guarded)
    (pets : ∀ pet row, moved.liveRow? .pet pet = some row → row.archived = some false →
      before.liveRow? .pet pet = some row)
    (owners : ∀ owner, moved.IsArchived .petOwner owner → before.IsArchived .petOwner owner)
    : moved.Guarded := by
  intro pet row owner found active owned archived
  exact h pet row owner (pets pet row found active) active owned (owners owner archived)

/-- The guard outlasts every transition on tables in which no owner is both live and archived. -/
theorem transition {t : Transition} (h : before.Guarded)
    (exclusive : ∀ owner, before.IsLive .petOwner owner → ¬ before.IsArchived .petOwner owner)
    (moves : t.Moves now before moved)
    : moved.Guarded := by
  intro pet row owner found active owned archived
  rcases moves.pet_found found with ⟨ofPet, owner', owned', live⟩ | found
  · rcases moves.owner_archived archived with ⟨ofOwner, -⟩ | archived
    · -- No transition takes a pet back and lets an owner go at once.
      rw [ofPet] at ofOwner
      cases ofOwner
    · rw [owned] at owned'
      cases owned'
      exact exclusive owner live archived
  · rcases moves.owner_archived archived with ⟨-, letsGo⟩ | archived
    · exact letsGo.inactive found owned active
    · exact h pet row owner found active owned archived

/-- The guard outlasts a change to the live rows of any kind but that of pets. -/
theorem setLive_other {kind : Kind} (h : before.Guarded) (rows : Table (LiveRow kind))
    (other : kind ≠ .pet)
    : (before.setLive kind rows).Guarded := by
  refine h.of_fewer ?_ (fun _ archived => archived)
  intro pet row found _
  rwa [liveRow?_setLive_other _ _ _ _ other] at found

/-- The guard outlasts the creation of a pet, unless that is created under an archived owner. -/
theorem create {rows : Table (LiveRow .pet)} {key : Int} {content : Content .pet}
    (h : before.Guarded) (present : before.live .pet = some rows)
    (respects : ∀ owner, (content : PetContent).owner = some owner →
      ¬ before.IsArchived .petOwner owner)
    : (before.setLive .pet (rows.insert key (LiveRow.fresh content))).Guarded := by
  intro pet row owner found active owned
  rw [liveRow?_setLive_same, Table.find?_insert] at found
  by_cases new : pet = key
  · rw [if_pos new] at found
    cases found
    exact respects owner owned
  · rw [if_neg new] at found
    exact h pet row owner ((liveRow?_of_live present pet).trans found) active owned

/-- The guard outlasts the flagging of pets: a flagged pet is not active any more. -/
theorem flag {rows : Table (LiveRow .pet)} (h : before.Guarded)
    (present : before.live .pet = some rows) (test : Int → LiveRow .pet → Bool)
    : (before.setLive .pet (rows.map ((Amendment.flag test).apply now))).Guarded := by
  refine h.of_fewer ?_ (fun _ archived => archived)
  intro pet row found active
  rw [liveRow?_setLive_same, Table.find?_map, Option.map_eq_some_iff] at found
  obtain ⟨old, found, flagged⟩ := found
  rw [liveRow?_of_live present, found]
  rw [Amendment.apply] at flagged
  split at flagged
  · subst flagged
    cases active
  · rw [flagged]

/-- The guard outlasts every change that respects it. -/
theorem step {past : List Deed} {c : Change} (h : s.tables.Guarded) (located : Located past s)
    (made : s.Makes now c after) (respects : c.RespectsGuard s)
    : after.tables.Guarded := by
  cases made with
  | @create kind content rows present free =>
      cases kind with
      | pet => exact h.create present respects
      | _ => exact h.setLive_other _ (by decide)
  | transition moves present free =>
      have moved := h.transition (fun owner => located.not_both .petOwner owner) moves
      exact moved.of_fewer (fun _ _ found _ => found) fun _ archived => archived
  | note | prune => exact h
  | @amend kind rows amendment present =>
      cases kind with
      | pet =>
          cases amendment with
          | flag test => exact h.flag present test
          | unflag | revise => exact respects.elim
      | _ => exact h.setLive_other _ (by decide)
  | complete =>
      refine h.of_fewer ?_ ?_
      · intro pet row found _
        exact (s.tables.liveRow?_complete .pet pet).symm.trans found
      · intro owner archived
        have same := s.tables.archivedRow?_complete .petOwner owner
        rwa [IsArchived, ← same]

/-- In a fresh database there are no pets. -/
theorem fresh (clock : Instant) : (Database.fresh clock).store.tables.Guarded :=
  fun _ _ _ found _ _ => by cases found

end Tables.Guarded

/-- Whatever is asked of a fresh database, as long as no pet is created under an archived owner and
no pet is unflagged: at no time does a live pet that is not flagged belong to an archived owner.
-/
theorem Database.no_active_pet_of_archived_owner (clock : Instant) (requests : List Request)
    (respects : (Database.fresh clock).Throughout (fun d r => r.RespectsGuard d) requests)
    : ∀ before rest, requests = before ++ rest →
        ((Database.fresh clock).after before).store.tables.Guarded := by
  intro before rest split
  rw [split] at respects
  have run := Database.preserves (fun past s => Located past s ∧ s.tables.Guarded)
    (fun past s after held tables sequences =>
      ⟨held.1.stay tables sequences, by rw [tables]; exact held.2⟩)
    (fun d r past s c after fits caused held made =>
      ⟨held.1.step made, held.2.step held.1 made (fits.of_causes caused)⟩)
    respects.left ⟨.fresh clock, .fresh clock⟩
  exact run.2

/-- An owner who is let go once the only pet is flagged has no active pet then. -/
theorem Database.no_active_pet_of_archived_owner_flagged
    : let requests : List Request := [
        .create .petOwner (PetOwnerContent.ofName "Ann"),
        .create .pet (PetContent.ofOwner 1 "Rex"),
        .transition ⟨.archive, .petOwner, 1, none, "moved away"⟩,
        .flagPet 1,
        .transition ⟨.archive, .petOwner, 1, none, "moved away"⟩]
      let d := Database.fresh .epoch
      d.Throughout (fun d r => r.RespectsGuard d) requests
      ∧ (d.after requests).store.tables.IsLive .pet 1
      ∧ (d.after requests).store.tables.IsArchived .petOwner 1
      ∧ (d.after requests).store.tables.Guarded := by
  intro requests d
  have respects : d.Throughout (fun d r => r.RespectsGuard d) requests := by
    refine ⟨trivial, ?_, trivial, trivial, trivial, trivial⟩
    intro owner owned
    cases owned
    decide +kernel
  exact ⟨respects, by decide +kernel, by decide +kernel,
    Database.no_active_pet_of_archived_owner .epoch requests respects requests []
      (List.append_nil _).symm⟩

end AdoptionRecords
