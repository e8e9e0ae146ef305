import AdoptionRecords.Proofs.Guarantees.SoftFlags

/-! Flags and their dates never drift apart. Every way in which a row comes to be, or is changed
where it stands, writes the flag together with its date; a row that is archived brings a reason as
well. Setting a pet's flag and clearing it again leaves everything as it was.
-/

namespace AdoptionRecords

open Calendar

-----------------------------------------------------------------------------------------
-- Rows
-----------------------------------------------------------------------------------------

/-- The flag and the date of a live row agree: it is known whether the row is flagged, and there is
no date exactly if it is not.
-/
structure LiveRow.FlagAgrees {kind : Kind} (row : LiveRow kind) : Prop where
  known : row.archived ≠ none
  undated : row.archived = some false ↔ row.archivedAt = none

/-- An archived row tells that it is archived, when that was done and why. -/
structure ArchivedRow.IsMarked {kind : Kind} (row : ArchivedRow kind) : Prop where
  flagged : row.archived = some true
  dated : row.archivedAt ≠ none
  explained : row.reason ≠ none

namespace LiveRow

variable {kind : Kind} {row : LiveRow kind}

theorem FlagAgrees.fresh (content : Content kind) : (LiveRow.fresh content).FlagAgrees :=
  ⟨Option.some_ne_none _, iff_of_true rfl rfl⟩

theorem flagAgrees_flag (row : LiveRow kind) (now : Instant) : (row.flag now).FlagAgrees :=
  ⟨Option.some_ne_none _, iff_of_false nofun nofun⟩

theorem flagAgrees_unflag (row : LiveRow kind) : row.unflag.FlagAgrees :=
  ⟨Option.some_ne_none _, iff_of_true rfl rfl⟩

/-- A flag that is changed at all is changed with its date. -/
theorem FlagAgrees.amend (h : row.FlagAgrees) (now : Instant) (amendment : Amendment kind)
    (key : Int)
    : (amendment.apply now key row).FlagAgrees := by
  cases amendment with
  | flag test =>
      rw [Amendment.apply]
      split
      · exact flagAgrees_flag row now
      · exact h
  | unflag test =>
      rw [Amendment.apply]
      split
      · exact flagAgrees_unflag row
      · exact h
  | revise content => exact ⟨h.known, h.undated⟩

/-- A row is archived with its flag, its date and a reason. -/
theorem isMarked_toArchive (row : LiveRow kind) (actor : Option Int) (reason : String)
    (now : Instant)
    : (row.toArchive actor reason now).IsMarked :=
  ⟨rfl, Option.some_ne_none _, Option.some_ne_none _⟩

/-- A row that is not flagged and whose date agrees is the same once it was flagged and unflagged.
-/
theorem FlagAgrees.unflag_flag (h : row.FlagAgrees) (unflagged : row.archived = some false)
    (now : Instant)
    : (row.flag now).unflag = row := by
  obtain ⟨content, archived, archivedAt⟩ := row
  cases unflagged
  cases h.undated.mp rfl
  rfl

end LiveRow

-----------------------------------------------------------------------------------------
-- Changes of a store
-----------------------------------------------------------------------------------------

namespace Store.Makes

variable {now : Instant} {s after : Store} {c : Change} {kind : Kind} {key : Int}

/-- A live row after a change was there before, or is fresh, or was amended where it stands. -/
theorem liveRow_cases (h : s.Makes now c after) {row : LiveRow kind}
    (found : after.tables.liveRow? kind key = some row)
    : s.tables.liveRow? kind key = some row
      ∨ (∃ content, row = LiveRow.fresh content)
      ∨ ∃ (amendment : Amendment kind) (old : LiveRow kind),
        s.tables.liveRow? kind key = some old ∧ row = amendment.apply now key old := by
  by_cases apart : ∀ deed ∈ c.deeds, ¬ deed.Concerns kind key
  · obtain ⟨-, live | ⟨amendment, -, live⟩⟩ := h.rows_of_apart apart
    · exact .inl (live.symm.trans found)
    · rw [live, Option.map_eq_some_iff] at found
      obtain ⟨old, was, rfl⟩ := found
      exact .inr (.inr ⟨amendment, old, was, rfl⟩)
  · cases h with
    | create present free =>
        obtain ⟨rfl, rfl⟩ : _ = kind ∧ s.sequences.live _ = key := by
          simpa [Change.deeds, Deed.Concerns] using apart
        rw [Tables.liveRow?_setLive_same, Table.find?_insert, if_pos rfl] at found
        exact .inr (.inl ⟨_, (Option.some.inj found).symm⟩)
    | transition moves present free =>
        rcases (Completed.of_moves moves present free).liveRow_before found
          with was | ⟨old, -, rfl⟩
        · exact .inl was
        · exact .inr (.inl ⟨old.content, rfl⟩)
    | note => exact .inl found
    | amend | prune | complete => simp [Change.deeds] at apart

/-- An archived row after a change was there before, or was archived now. -/
theorem archivedRow_cases (h : s.Makes now c after) {row : ArchivedRow kind}
    (found : after.tables.archivedRow? kind key = some row)
    : s.tables.archivedRow? kind key = some row
      ∨ ∃ (old : LiveRow kind) (actor : Option Int) (reason : String),
        row = old.toArchive actor reason now := by
  cases h with
  | transition moves present free =>
      rcases (Completed.of_moves moves present free).archivedRow_before found
        with was | ⟨old, -, rfl⟩
      · exact .inl was
      · exact .inr ⟨old, _, _, rfl⟩
  | create | note | amend | prune => exact .inl found
  | complete => exact .inl ((s.tables.archivedRow?_complete kind key).symm.trans found)

end Store.Makes

/-- Every live row has a flag that agrees with its date, and every archived row is marked so. -/
structure Tables.FlagsAgree (t : Tables) : Prop where
  live : ∀ kind key row, t.liveRow? kind key = some row → row.FlagAgrees
  archived : ∀ kind key row, t.archivedRow? kind key = some row → row.IsMarked

/-- Every change keeps flags and dates together. -/
theorem Tables.FlagsAgree.step {now : Instant} {s after : Store} {c : Change}
    (held : s.tables.FlagsAgree) (made : s.Makes now c after)
    : after.tables.FlagsAgree where
  live kind key row found := by
    rcases made.liveRow_cases found with was | ⟨content, rfl⟩ | ⟨amendment, old, was, rfl⟩
    · exact held.live kind key row was
    · exact .fresh content
    · exact (held.live kind key old was).amend now amendment key
  archived kind key row found := by
    rcases made.archivedRow_cases found with was | ⟨old, actor, reason, rfl⟩
    · exact held.archived kind key row was
    · exact old.isMarked_toArchive actor reason now

namespace Tables

/-- Rows put in a live table take the place of those that were put there before. -/
theorem setLive_setLive (t : Tables) (kind : Kind) (rows later : Table (LiveRow kind))
    : (t.setLive kind rows).setLive kind later = t.setLive kind later := by
  have live (other : Kind)
      : ((t.setLive kind rows).setLive kind later).live other
        = (t.setLive kind later).live other := by
    by_cases same : kind = other
    · subst other
      rw [setLive_live_same, setLive_live_same]
    · rw [setLive_live_other _ _ _ same, setLive_live_other _ _ _ same,
        setLive_live_other _ _ _ same]
  exact congrArg (fun family => { t with live := family }) (funext live)

/-- The rows of a live table can be put there again. -/
theorem setLive_self {t : Tables} {kind : Kind} {rows : Table (LiveRow kind)}
    (present : t.live kind = some rows)
    : t.setLive kind rows = t := by
  have live (other : Kind) : (t.setLive kind rows).live other = t.live other := by
    by_cases same : kind = other
    · subst other
      rw [setLive_live_same, present]
    · rw [setLive_live_other _ _ _ same]
  exact congrArg (fun family => { t with live := family }) (funext live)

/-- A row that is replaced leaves the keys of every table as they are. -/
theorem keys?_setLive_of_found {t : Tables} {kind : Kind} {rows : Table (LiveRow kind)}
    {key : Int} {row : LiveRow kind} (present : t.live kind = some rows)
    (found : rows.find? key = some row) (change : LiveRow kind → LiveRow kind) (id : TableId)
    : (t.setLive kind (rows.insert key (change row))).keys? id = t.keys? id := by
  cases id with
  | live other =>
      by_cases same : kind = other
      · subst other
        rw [keys?, keys?, setLive_live_same, present, Table.insert_eq_map change found]
        simp [Table.keys, Table.map]
      · rw [keys?, keys?, setLive_live_other _ _ _ same]
  | archive | log | ledger => rfl

end Tables

-----------------------------------------------------------------------------------------
-- Calls that turn a flag
-----------------------------------------------------------------------------------------

namespace Database

variable {d : Database} {pet : Int}

/-- (d.TurnsFlag pet before change run) holds if the run, of a call on the database d, turns the
flag of one pet or does nothing. It is answered as done exactly if the row of the pet is another
one; the flag of the pet was then as it was thought to be, and the content stays. Rows of others,
the keys of all tables, the archive, the log and everything around the store are as they were.
-/
structure TurnsFlag (d : Database) (pet : Int) (before : Bool)
    (change : LiveRow .pet → LiveRow .pet) (run : Except Fault Bool × Database) : Prop where
  told : run.1 = .ok true
    ↔ run.2.store.tables.liveRow? .pet pet ≠ d.store.tables.liveRow? .pet pet
  undone : run.1 ≠ .ok true → run.2 = d
  turned : run.1 = .ok true → ∃ row, d.store.tables.liveRow? .pet pet = some row
    ∧ row.archived = some before ∧ run.2.store.tables.liveRow? .pet pet = some (change row)
  content : (run.2.store.tables.liveRow? .pet pet).map (·.content)
    = (d.store.tables.liveRow? .pet pet).map (·.content)
  others : ∀ kind key, ¬ (kind = .pet ∧ key = pet) →
    run.2.store.tables.liveRow? kind key = d.store.tables.liveRow? kind key
  keys : ∀ id, run.2.store.tables.keys? id = d.store.tables.keys? id
  archive : run.2.store.tables.archive = d.store.tables.archive
  log : run.2.store.tables.log = d.store.tables.log
  ledger : run.2.store.tables.ledger = d.store.tables.ledger
  sequences : run.2.store.sequences = d.store.sequences
  surroundings : run.2 = { d with store := run.2.store }

/-- A unit of work that turns the flag of a pet does so or nothing, if turning leaves the content of
the row and gives it another flag than it was thought to have.
-/
theorem turnsFlag_perform (work : Instant → Work Bool) {before : Bool}
    {change : LiveRow .pet → LiveRow .pet} (turns : work d.now = Flag.turn pet before change)
    (kept : ∀ row, (change row).content = row.content)
    (differs : ∀ row, (change row).archived ≠ some before)
    : d.TurnsFlag pet before change ((perform work).run d) := by
  rcases perform_turn_cases work turns
    with ⟨refused, same⟩ | ⟨done, -, pets, row, present, found, was, -, after⟩
  · refine ⟨iff_of_false refused (not_not_intro ?_), fun _ => same,
      fun done => (refused done).elim, ?_, fun _ _ _ => ?_, fun _ => ?_, ?_, ?_, ?_, ?_, ?_⟩ <;>
      rw [same]
  · have old := (Tables.liveRow?_of_live present pet).trans found
    have new : ((perform work).run d).2.store.tables.liveRow? .pet pet = some (change row) := by
      rw [after, Tables.liveRow?_setLive_same, Table.find?_insert, if_pos rfl]
    refine {
      told := iff_of_true done ?_
      undone := fun refused => (refused done).elim
      turned := fun _ => ⟨row, old, was, new⟩
      content := ?_
      others := ?_
      keys := ?_
      archive := by rw [after]; rfl
      log := by rw [after]; rfl
      ledger := by rw [after]; rfl
      sequences := by rw [after]
      surroundings := by rw [after] }
    · rw [new, old]
      intro same
      rw [Option.some_inj] at same
      exact differs row ((congrArg (·.archived) same).trans was)
    · rw [new, old, Option.map_some, Option.map_some, kept]
    · intro kind key other
      rw [after]
      exact Tables.liveRow?_setLive_apart present
        (fun _ h => Table.find?_insert_of_ne _ h) fun own => other ⟨own.1.symm, own.2.symm⟩
    · intro id
      rw [after]
      exact Tables.keys?_setLive_of_found present found change id

/-- Clearing the flag of a pet right after setting it leaves the database as it was, if the pet was
not flagged. Either both are done, and the row is the old one again, or none of them is.
-/
theorem unflagPet_flagPet (agree : d.store.tables.FlagsAgree) {row : LiveRow .pet}
    (found : d.store.tables.liveRow? .pet pet = some row) (unflagged : row.archived = some false)
    : ((unflagPet pet).run ((flagPet pet).run d).2).2 = d := by
  rcases perform_turn_cases (fun now => Flag.setPet pet now) (Flag.setPet_eq_turn pet d.now)
    with ⟨-, same⟩ | ⟨-, reachable, pets, row', present, found', -, permitted, after⟩
  · rw [flagPet, same]
    rcases perform_turn_cases (d := d) (fun _ => Flag.clearPet pet) (Flag.clearPet_eq_turn pet)
      with ⟨-, same'⟩ | ⟨-, -, pets, row', present, found', flagged, -⟩
    · exact same'
    · rw [Tables.liveRow?_of_live present, found'] at found
      cases found
      cases unflagged.symm.trans flagged
  · rw [Tables.liveRow?_of_live present, found'] at found
    cases found
    have back := (agree.live .pet pet row
      ((Tables.liveRow?_of_live present pet).trans found')).unflag_flag unflagged d.now
    have permitted' : (row.flag d.now).unflag.Permitted := by
      obtain ⟨filled, -, known⟩ := LiveRow.permitted_iff.mp permitted
      exact LiveRow.permitted_iff.mpr ⟨filled, Option.some_ne_none _, known⟩
    let flagged := d.store.tables.setLive .pet (pets.insert pet (row.flag d.now))
    have cleared := perform_turn_of_found (d := { d with store.tables := flagged })
      (fun _ => Flag.clearPet pet) (Flag.clearPet_eq_turn pet) reachable
      (Tables.setLive_live_same ..) ((Table.find?_insert ..).trans (if_pos rfl)) rfl permitted'
    have restored : (pets.insert pet (row.flag d.now)).insert pet row = pets := by
      ext1 other
      rw [Table.find?_insert, Table.find?_insert]
      by_cases same : other = pet
      · rw [if_pos same, same, found']
      · rw [if_neg same, if_neg same]
    rw [flagPet, after, unflagPet, cleared, back, restored]
    simp only [flagged, Tables.setLive_setLive, Tables.setLive_self present]

/-- In every run from a fresh database flags and dates agree, by induction on the requests. -/
theorem flagsAgree_after (clock : Instant) (requests : List Request)
    : ((fresh clock).after requests).store.tables.FlagsAgree := by
  have any : (fresh clock).Throughout (fun _ _ => True) requests :=
    .of_forall (fun _ _ _ => trivial) _
  refine preserves_tables Tables.FlagsAgree (fun _ _ _ _ _ _ _ held made => held.step made) any ?_
  constructor
  · intro kind key row found
    cases found
  · intro kind key row found
    cases found

/-- Flags and dates never drift apart. In every run from a fresh database each live row is dated
exactly if it is flagged, and each archived row is flagged, dated and explained. Setting and
clearing the flag of a pet are answered as done exactly if they changed the row of the pet, and
change nothing else; they are done to every live pet that is not flagged yet, or is flagged. Setting
the flag and clearing it again leaves the database as it was.
-/
theorem flags_agree_with_dates
    : (∀ clock requests, ((fresh clock).after requests).store.tables.FlagsAgree)
      ∧ ∀ (d : Database) (pet : Int),
        d.TurnsFlag pet false (·.flag d.now) ((flagPet pet).run d)
        ∧ d.TurnsFlag pet true (·.unflag) ((unflagPet pet).run d)
        ∧ (d.reachable = true → d.store.tables.Migrated →
          (((flagPet pet).run d).1 = .ok true
            ↔ ∃ row : LiveRow .pet, d.store.tables.liveRow? .pet pet = some row
              ∧ row.archived = some false)
          ∧ (((unflagPet pet).run d).1 = .ok true
            ↔ ∃ row : LiveRow .pet, d.store.tables.liveRow? .pet pet = some row
              ∧ row.archived = some true))
        ∧ (d.store.tables.FlagsAgree → ∀ row : LiveRow .pet,
          d.store.tables.liveRow? .pet pet = some row → row.archived = some false →
          ((unflagPet pet).run ((flagPet pet).run d).2).2 = d) := by
  refine ⟨flagsAgree_after, fun d pet => ⟨?_, ?_, ?_, ?_⟩⟩
  · exact turnsFlag_perform (fun now => Flag.setPet pet now) (Flag.setPet_eq_turn pet d.now)
      (fun _ => rfl) fun _ => by simp [LiveRow.flag]
  · exact turnsFlag_perform (fun _ => Flag.clearPet pet) (Flag.clearPet_eq_turn pet)
      (fun _ => rfl) fun _ => by simp [LiveRow.unflag]
  · intro reachable migrated
    exact ⟨flagPet_eq_true_iff reachable migrated, unflagPet_eq_true_iff reachable migrated⟩
  · intro agree row found unflagged
    exact unflagPet_flagPet agree found unflagged

/-- A pet that was just created is flagged, and is as it was created once that is cleared. -/
theorem flags_agree_with_dates_of_new_pet
    : let d := (fresh .epoch).after [
        .create .petOwner (PetOwnerContent.ofName "Ann"),
        .create .pet (PetContent.ofOwner 1 "Rex")]
      d.store.tables.FlagsAgree
      ∧ ((flagPet 1).run d).1 = .ok true
      ∧ ((unflagPet 1).run ((flagPet 1).run d).2).2 = d := by
  intro d
  obtain ⟨agree, calls⟩ := flags_agree_with_dates
  obtain ⟨-, -, done, undone⟩ := calls d 1
  let row : LiveRow .pet := .fresh (PetContent.ofOwner 1 "Rex")
  have found : d.store.tables.liveRow? .pet 1 = some row := by
    decide +kernel
  exact ⟨agree .epoch _, (done (by decide +kernel) (by decide +kernel)).1.mpr ⟨row, found, rfl⟩,
    undone (agree .epoch _) row found rfl⟩

end Database

end AdoptionRecords
