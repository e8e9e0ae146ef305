import AdoptionRecords.Proofs.History.Fates

/-! The content of a record survives any number of moves. Whichever table holds the record, it holds
the content with which the record was created, as long as no update of a user revises contents. An
archived row tells of the last archiving; a restored row is the row as it was created, until its
flag is set.
-/

namespace AdoptionRecords

open Calendar

-----------------------------------------------------------------------------------------
-- The last deed that concerns a record
-----------------------------------------------------------------------------------------

/-- The last of the deeds that concern a record. -/
def Deed.lastOn (kind : Kind) (key : Int) (deeds : List Deed) : Option Deed :=
  (deeds.filter fun deed => deed.Concerns kind key).getLast?

namespace Deed

variable {kind : Kind} {key : Int} {deeds more : List Deed} {deed : Deed}

/-- Deeds that do not concern a record leave the last that does. -/
theorem lastOn_append_of_apart (h : ∀ deed ∈ more, ¬ deed.Concerns kind key)
    : lastOn kind key (deeds ++ more) = lastOn kind key deeds := by
  have none : more.filter (fun deed => deed.Concerns kind key) = [] := by
    simpa using h
  rw [lastOn, List.filter_append, none, List.append_nil, lastOn]

/-- A transition is the last deed on its record once it is made. -/
theorem lastOn_append_transition (deeds : List Deed) (t : Transition) (entry : LogEntry)
    : lastOn t.kind t.key (deeds ++ [.transition t entry]) = some (.transition t entry) := by
  have concerned : (Deed.transition t entry).Concerns t.kind t.key := ⟨rfl, rfl⟩
  simp [lastOn, List.filter_append, concerned]

/-- The last deed that concerns a record is one of the deeds, and it concerns the record. -/
theorem lastOn_eq_some (h : lastOn kind key deeds = some deed)
    : deed ∈ deeds ∧ deed.Concerns kind key := by
  have member := List.mem_of_getLast? h
  simpa using member

end Deed

-----------------------------------------------------------------------------------------
-- Requests that change rows where they stand
-----------------------------------------------------------------------------------------

/-- A request may revise the contents of records. -/
def Request.Revises : Request → Prop
  | updateUser _ => True
  | _ => False

/-- A request may flag a record of a given content. -/
def Request.Flags (kind : Kind) (key : Int) (content : Content kind) : Request → Prop
  | flagPet pet => kind = .pet ∧ key = pet
  | updateUser _ => kind.IsOfPeople
  | transact calls _ =>
      ∃ username, .flagProfiles kind username ∈ calls
        ∧ Content.profileName? kind content = some username
  | _ => False

/-- A request that revises nothing amends rows only to unflag them, or to flag those that it says it
may flag.
-/
theorem Request.amends_of_causes {r : Request} {d : Database} {s : Store} {kind : Kind}
    {amendment : Amendment kind} (unrevised : ¬ r.Revises)
    (caused : r.Causes d s (.amend kind amendment))
    : (∃ test, amendment = .unflag test)
      ∨ ∃ test, amendment = .flag test
        ∧ ∀ key row, test key row = true → r.Flags kind key row.content := by
  cases r with
  | flagPet pet =>
      cases caused
      exact .inr ⟨_, rfl, fun key row flagged => ⟨rfl, eq_of_beq flagged⟩⟩
  | unflagPet pet =>
      cases caused
      exact .inl ⟨_, rfl⟩
  | updateUser => exact (unrevised trivial).elim
  | transact calls commit =>
      cases amendment with
      | flag test =>
          obtain ⟨-, username, member, carried⟩ := caused
          exact .inr ⟨test, rfl, fun key row flagged => ⟨username, member, carried key row flagged⟩⟩
      | unflag | revise => exact caused.elim
  | archiveRequests | archivePets => exact caused.elim
  | retain =>
      rcases caused with archives | ⟨_, impossible⟩
      · exact archives.elim
      · cases impossible
  | create | transition | deleteUser | cleanUpLog | pruneLog | migrate => simp [Causes] at caused
  | surroundings => exact caused.elim

-----------------------------------------------------------------------------------------
-- One change
-----------------------------------------------------------------------------------------

/-- A record was kept through deeds if it has its content wherever it is, and its archived row tells
of the last of the deeds that concern it, which archived it.
-/
structure Kept {kind : Kind} (content : Content kind) (key : Int) (done : List Deed) (s : Store)
    : Prop where
  live : ∀ row, s.tables.liveRow? kind key = some row → row.content = content
  archived : ∀ row, s.tables.archivedRow? kind key = some row →
    ∃ actor reason entry,
      Deed.lastOn kind key done = some (.transition ⟨.archive, kind, key, actor, reason⟩ entry)
      ∧ row = (LiveRow.fresh content).toArchive actor reason entry.performedAt

/-- A record came back plain if it is live without a flag once the last of the deeds that concern it
restored it.
-/
def Plain {kind : Kind} (content : Content kind) (key : Int) (done : List Deed) (s : Store)
    : Prop :=
  ∀ t entry, Deed.lastOn kind key done = some (.transition t entry) → t.operation = .restore →
    s.tables.liveRow? kind key = some (LiveRow.fresh content)

section Step

variable {kind : Kind} {content : Content kind} {key : Int} {base done : List Deed} {now : Instant}
  {s after : Store} {d : Database} {r : Request} {c : Change}

/-- A deed on a record that was created before is a transition of it: no key is drawn twice. -/
theorem Located.transition_of_concerned (located : Located done s)
    (created : .creation kind key ∈ done) (made : s.Makes now c after)
    (concerned : ¬ ∀ deed ∈ c.deeds, ¬ deed.Concerns kind key)
    : ∃ t entry tables, c = .transition t entry ∧ t.kind = kind ∧ t.key = key
      ∧ entry.performedAt = now ∧ t.Moves now s.tables tables
      ∧ after.tables.liveRow? = tables.liveRow? ∧ after.tables.archivedRow? = tables.archivedRow? := by
  cases made with
  | create present free =>
      simp only [Change.deeds, List.mem_singleton, forall_eq, Decidable.not_not] at concerned
      obtain ⟨rfl, rfl⟩ := concerned
      obtain ⟨fate, replayed, holds⟩ := located _ (s.sequences.live _)
      have born := Fate.ne_unborn_of_creation replayed created
      exact (Int.lt_irrefl _ (holds.drawn born)).elim
  | @transition t tables rows moves present free =>
      simp only [Change.deeds, List.mem_singleton, forall_eq, Decidable.not_not] at concerned
      obtain ⟨rfl, rfl⟩ := concerned
      exact ⟨t, _, tables, rfl, rfl, rfl, rfl, moves, rfl, rfl⟩
  | note => simp [Change.deeds, Deed.Concerns] at concerned
  | amend | prune | complete => simp [Change.deeds] at concerned

theorem Kept.stay (h : Kept content key done s) (tables : after.tables = s.tables)
    : Kept content key done after := by
  refine ⟨?_, ?_⟩
  · rw [tables]
    exact h.live
  · rw [tables]
    exact h.archived

/-- A change that revises no content leaves a record kept. -/
theorem Kept.step (h : Kept content key done s) (located : Located base s)
    (created : .creation kind key ∈ base) (unrevised : ¬ r.Revises) (caused : r.Causes d s c)
    (made : s.Makes now c after)
    : Kept content key (done ++ c.deeds) after := by
  by_cases apart : ∀ deed ∈ c.deeds, ¬ deed.Concerns kind key
  · obtain ⟨archived, live⟩ := made.rows_of_apart apart
    refine ⟨?_, ?_⟩
    · intro row found
      rcases live with live | ⟨amendment, rfl, live⟩
      · exact h.live row (live ▸ found)
      · rw [live, Option.map_eq_some_iff] at found
        obtain ⟨old, found, rfl⟩ := found
        rcases Request.amends_of_causes unrevised caused with ⟨test, rfl⟩ | ⟨test, rfl, -⟩
        · rw [Amendment.content_apply_unflag, h.live old found]
        · rw [Amendment.content_apply_flag, h.live old found]
    · rw [archived, Deed.lastOn_append_of_apart apart]
      exact h.archived
  · obtain ⟨t, entry, tables, rfl, rfl, rfl, rfl, moves, live, archived⟩ :=
      located.transition_of_concerned created made apart
    have last := Deed.lastOn_append_transition done t entry
    obtain ⟨operation, kind, key, actor, reason⟩ := t
    have rows := moves.rows_of_own
    rw [Change.deeds]
    cases operation with
    | archive =>
        obtain ⟨row, found, nowhere, there⟩ := rows
        refine ⟨?_, ?_⟩
        · intro other impossible
          rw [live, nowhere] at impossible
          cases impossible
        · intro other same
          rw [archived, there] at same
          cases same
          refine ⟨actor, reason, entry, last, ?_⟩
          rw [LiveRow.toArchive, LiveRow.toArchive, h.live row found]
          rfl
    | restore =>
        obtain ⟨row, found, nowhere, there⟩ := rows
        obtain ⟨_, _, _, -, rfl⟩ := h.archived row found
        refine ⟨?_, ?_⟩
        · intro other same
          rw [live, there] at same
          cases same
          rfl
        · intro other impossible
          rw [archived, nowhere] at impossible
          cases impossible
    | permanentDelete =>
        obtain ⟨row, -, nowhere, there⟩ := rows
        refine ⟨?_, ?_⟩
        · intro other same
          rw [live, there] at same
          exact h.live other same
        · intro other impossible
          rw [archived, nowhere] at impossible
          cases impossible

/-- A change that revises no content and does not flag a record leaves it plain. -/
theorem Plain.step {past : List Deed} (h : Plain content key done s) (kept : Kept content key past s)
    (located : Located base s)
    (created : .creation kind key ∈ base) (unrevised : ¬ r.Revises)
    (unflagged : ¬ r.Flags kind key content) (caused : r.Causes d s c)
    (made : s.Makes now c after)
    : Plain content key (done ++ c.deeds) after := by
  intro t entry last restored
  by_cases apart : ∀ deed ∈ c.deeds, ¬ deed.Concerns kind key
  · rw [Deed.lastOn_append_of_apart apart] at last
    have plain := h t entry last restored
    obtain ⟨-, live | ⟨amendment, rfl, live⟩⟩ := made.rows_of_apart apart
    · exact live.trans plain
    · rw [live, plain, Option.map_some]
      rcases Request.amends_of_causes unrevised caused with ⟨test, rfl⟩ | ⟨test, rfl, flags⟩
      · rw [Amendment.apply_unflag_fresh]
      · have passes : test key (LiveRow.fresh content) ≠ true :=
          fun flagged => unflagged (flags key _ flagged)
        rw [Amendment.apply, if_neg passes]
  · obtain ⟨t', entry', tables, rfl, rfl, rfl, -, moves, live, -⟩ :=
      located.transition_of_concerned created made apart
    rw [Change.deeds, Deed.lastOn_append_transition] at last
    cases last
    have rows := moves.rows_of_own
    simp only [restored] at rows
    obtain ⟨row, found, -, there⟩ := rows
    obtain ⟨_, _, _, -, rfl⟩ := kept.archived row found
    rw [live, there]
    rfl

end Step

-----------------------------------------------------------------------------------------
-- Many requests
-----------------------------------------------------------------------------------------

section Run

variable {kind : Kind} {content : Content kind} {key : Int} {base past : List Deed} {d : Database}
  {requests : List Request}

/-- Requests that revise no content leave a record kept. -/
theorem Kept.run (h : Kept content key past d.store) (located : Located base d.store)
    (created : .creation kind key ∈ base) (unrevised : ∀ r ∈ requests, ¬ r.Revises)
    : Located (base ++ d.deeds requests) (d.after requests).store
      ∧ Kept content key (past ++ d.deeds requests) (d.after requests).store := by
  let holds (done : List Deed) (s : Store) : Prop :=
    Located (base ++ done) s ∧ Kept content key (past ++ done) s
  have start : holds [] d.store := by
    simp only [holds, List.append_nil]
    exact ⟨located, h⟩
  have throughout : d.Throughout (fun _ r => ¬ r.Revises) requests :=
    .of_forall (fun r member _ => unrevised r member) d
  refine @Database.preserves holds _ ?_ ?_ d requests throughout [] start
  · intro done s after held tables sequences
    exact ⟨held.1.stay tables sequences, held.2.stay tables⟩
  · intro d r done s c after unrevised caused held made
    simp only [holds, ← List.append_assoc]
    exact ⟨held.1.step made,
      held.2.step held.1 (List.mem_append_left _ created) unrevised caused made⟩

/-- Requests that revise no content and do not flag a record leave it plain once they restore it. -/
theorem Plain.run (kept : Kept content key past d.store) (located : Located base d.store)
    (created : .creation kind key ∈ base)
    (unrevised : ∀ r ∈ requests, ¬ r.Revises ∧ ¬ r.Flags kind key content)
    : Plain content key (d.deeds requests) (d.after requests).store := by
  let holds (done : List Deed) (s : Store) : Prop :=
    Located (base ++ done) s ∧ Kept content key (past ++ done) s ∧ Plain content key done s
  have start : holds [] d.store := by
    simp only [holds, List.append_nil]
    refine ⟨located, kept, ?_⟩
    intro t entry last
    cases last
  have throughout : d.Throughout (fun _ r => ¬ r.Revises ∧ ¬ r.Flags kind key content) requests :=
    .of_forall (fun r member _ => unrevised r member) d
  refine And.right (And.right
    (@Database.preserves holds _ ?_ ?_ d requests throughout [] start))
  · intro done s after held tables sequences
    refine ⟨held.1.stay tables sequences, held.2.1.stay tables, ?_⟩
    rw [Plain, tables]
    exact held.2.2
  · intro d r done s c after fits caused held made
    obtain ⟨located, kept, plain⟩ := held
    have created := List.mem_append_left done created
    simp only [holds, ← List.append_assoc]
    exact ⟨located.step made, kept.step located created fits.1 caused made,
      plain.step kept located created fits.1 fits.2 caused made⟩

end Run

/-- A record that was just created is live, and not flagged. -/
theorem Database.liveRow_of_creation {d : Database} {kind : Kind} {content : Content kind}
    {key : Int} (created : .creation kind key ∈ (Request.create kind content).deeds d)
    : ((Request.create kind content).after d).store.tables.liveRow? kind key
        = some (LiveRow.fresh content) := by
  rw [Request.deeds_of_kept rfl] at created
  have after : ((Request.create kind content).after d).store
      = ((perform fun _ => Work.createLive kind content).run d).2.store := rfl
  simp only [Request.answered, run_perform] at created
  rw [after, run_perform]
  by_cases reachable : d.reachable = true
  · simp only [if_pos reachable] at created ⊢
    rcases d.store.yields_or_stops (Work.createLive kind content)
      with ⟨drawn, created', run⟩ | ⟨fault, stopped, run⟩
    · obtain ⟨rows, -, -, -, -, -, -, rfl, rfl⟩ := Store.yields_createLive_iff.mp run
      simp only [run.perform_eq, List.mem_singleton,
        Deed.creation.injEq, true_and] at created ⊢
      subst created
      simp [Table.find?_insert]
    · simp [run.perform_eq] at created
  · simp [if_neg reachable] at created

-----------------------------------------------------------------------------------------
-- From the creation on
-----------------------------------------------------------------------------------------

/-- A record was just created: the deeds so far tell of its creation, and it is live and not
flagged.
-/
structure Born {kind : Kind} (content : Content kind) (key : Int) (past : List Deed) (s : Store)
    : Prop where
  located : Located past s
  created : .creation kind key ∈ past
  row : s.tables.liveRow? kind key = some (LiveRow.fresh content)

/-- A request that creates a record in a run from a fresh database leaves the record just created. -/
theorem Born.of_creation {clock : Instant} {before : List Request} {kind : Kind}
    {content : Content kind} {key : Int}
    (created : .creation kind key ∈
      (Request.create kind content).deeds ((Database.fresh clock).after before))
    : Born content key ((Database.fresh clock).deeds (before ++ [.create kind content]))
        ((Request.create kind content).after ((Database.fresh clock).after before)).store := by
  refine ⟨?_, ?_, Database.liveRow_of_creation created⟩
  · have reached := Located.reached clock (before ++ [.create kind content])
    rwa [Database.after_append] at reached
  · rw [Database.deeds_append, Database.deeds, Database.deeds, List.append_nil]
    exact List.mem_append_right _ created

namespace Born

variable {kind : Kind} {content : Content kind} {key : Int} {past : List Deed} {d : Database}
  {requests : List Request}

theorem live (born : Born content key past d.store) : d.store.tables.IsLive kind key :=
  Tables.isLive_of_liveRow born.row

theorem kept (born : Born content key past d.store) : Kept content key [] d.store := by
  refine ⟨?_, ?_⟩
  · intro row found
    rw [born.row] at found
    cases found
    rfl
  · intro row found
    have archived : d.store.tables.IsArchived kind key := Tables.isArchived_of_archivedRow found
    exact (born.located.not_both kind key born.live archived).elim

/-- Requests that revise no content leave the record kept through their deeds. -/
theorem run (born : Born content key past d.store) (unrevised : ∀ r ∈ requests, ¬ r.Revises)
    : Located (past ++ d.deeds requests) (d.after requests).store
      ∧ Kept content key (d.deeds requests) (d.after requests).store :=
  born.kept.run born.located born.created unrevised

/-- The record is in one of its tables until it is purged. -/
theorem somewhere (born : Born content key past d.store) (unrevised : ∀ r ∈ requests, ¬ r.Revises)
    (unpurged : ∀ deed ∈ d.deeds requests, ¬ deed.Purges kind key)
    : (d.after requests).store.tables.IsLive kind key
      ∨ (d.after requests).store.tables.IsArchived kind key := by
  have somewhere := (born.run unrevised).1.somewhere_of_not_purged
    (List.mem_append_left _ born.created)
    (List.forall_mem_append.mpr ⟨born.located.not_purged_of_live born.live, unpurged⟩)
  exact somewhere.imp And.left And.right

/-- An archived row of the record tells of the request that archived it last. -/
theorem archived_row (born : Born content key past d.store)
    (unrevised : ∀ r ∈ requests, ¬ r.Revises) {row : ArchivedRow kind}
    (found : (d.after requests).store.tables.archivedRow? kind key = some row)
    : ∃ first r last actor reason entry,
        requests = first ++ r :: last
        ∧ .transition ⟨.archive, kind, key, actor, reason⟩ entry ∈ r.deeds (d.after first)
        ∧ Deed.lastOn kind key (d.deeds requests)
          = some (.transition ⟨.archive, kind, key, actor, reason⟩ entry)
        ∧ row = {
            content
            archived := some true
            archivedAt := some (d.after first).now
            archivedBy := actor
            reason := some reason } := by
  obtain ⟨actor, reason, entry, last, rfl⟩ := (born.run unrevised).2.archived row found
  obtain ⟨first, r, later, split, member⟩ :=
    Database.exists_of_mem_deeds (Deed.lastOn_eq_some last).1
  obtain ⟨number, stamped⟩ := (r.runs (d.after first)).stamped (.inl member)
  refine ⟨first, r, later, actor, reason, entry, split, member, last, ?_⟩
  rw [stamped]
  rfl

/-- If the last transition of the record was to restore it, and nothing flags it in the requests from
there on, then it is as it was created.
-/
theorem restored_row (born : Born content key past d.store) {first last : List Request}
    (unrevised : ∀ r ∈ first ++ last, ¬ r.Revises) {actor : Option Int} {reason : String}
    {entry : LogEntry}
    (restored : Deed.lastOn kind key ((d.after first).deeds last)
      = some (.transition ⟨.restore, kind, key, actor, reason⟩ entry))
    (unflagged : ∀ r ∈ last, ¬ r.Flags kind key content)
    : (d.after (first ++ last)).store.tables.liveRow? kind key = some (LiveRow.fresh content) := by
  obtain ⟨unrevised_first, unrevised_last⟩ := List.forall_mem_append.mp unrevised
  obtain ⟨located, kept⟩ := born.run unrevised_first
  have plain := Plain.run kept located (List.mem_append_left _ born.created)
    fun r member => ⟨unrevised_last r member, unflagged r member⟩
  rw [Database.after_append]
  exact plain _ _ restored rfl

end Born

namespace Database

/-- Whatever is asked of a fresh database once a record was created, except to update users: until
the record is purged it is live or archived, with the content with which it was created. An archived
row tells of the last archiving of the record: its instant, actor and reason. If the last transition
of the record in some of the latest requests restored it, and none of these flags it, then it is
live with its content and no flag; so it is what any earlier live row of it was, but for the flag.
-/
theorem content_survives (clock : Instant) (before rest : List Request) (kind : Kind)
    (content : Content kind) (key : Int)
    (created : .creation kind key ∈
      (Request.create kind content).deeds ((fresh clock).after before))
    (unrevised : ∀ r ∈ rest, ¬ r.Revises)
    : let d := (Request.create kind content).after ((fresh clock).after before)
      let tables := (d.after rest).store.tables
      ((∀ deed ∈ d.deeds rest, ¬ deed.Purges kind key) →
        tables.IsLive kind key ∨ tables.IsArchived kind key)
      ∧ (∀ row, tables.liveRow? kind key = some row → row.content = content)
      ∧ (∀ row, tables.archivedRow? kind key = some row →
          ∃ first r last actor reason entry,
            rest = first ++ r :: last
            ∧ .transition ⟨.archive, kind, key, actor, reason⟩ entry ∈ r.deeds (d.after first)
            ∧ Deed.lastOn kind key (d.deeds rest)
              = some (.transition ⟨.archive, kind, key, actor, reason⟩ entry)
            ∧ row = {
                content
                archived := some true
                archivedAt := some (d.after first).now
                archivedBy := actor
                reason := some reason })
      ∧ (∀ first middle last actor reason entry, rest = first ++ middle ++ last →
          Deed.lastOn kind key ((d.after (first ++ middle)).deeds last)
            = some (.transition ⟨.restore, kind, key, actor, reason⟩ entry) →
          (∀ r ∈ last, ¬ r.Flags kind key content) →
          tables.liveRow? kind key = some (LiveRow.fresh content)
          ∧ ∀ earlier, (d.after first).store.tables.liveRow? kind key = some earlier →
            tables.liveRow? kind key = some earlier.unflag) := by
  intro d tables
  have born : Born content key _ d.store := .of_creation created
  refine ⟨born.somewhere unrevised, (born.run unrevised).2.live,
    fun row found => born.archived_row unrevised found, ?_⟩
  intro first middle last actor reason entry split restored unflagged
  subst split
  have row := born.restored_row unrevised restored unflagged
  refine ⟨row, ?_⟩
  intro earlier found
  have unrevised_first : ∀ r ∈ first, ¬ r.Revises := by
    intro r member
    exact unrevised r (List.mem_append_left _ (List.mem_append_left _ member))
  have same := (born.run unrevised_first).2.live earlier found
  rw [row, ← same]
  rfl

/-- A flagged adopter who is archived and restored, while another adopter is flagged, is live again
without a flag.
-/
theorem content_survives_of_adopter
    : let ann : Content .adopter := AdopterContent.ofName "Ann"
      let before : List Request := [.create .adopter (AdopterContent.ofName "Bob")]
      let first : List Request := [.transact [.flagProfiles .adopter "Ann"] true]
      let middle : List Request := [
        .transition ⟨.archive, .adopter, 2, some 7, "moved away"⟩,
        .transition ⟨.archive, .adopter, 1, some 7, "moved away"⟩]
      let last : List Request := [
        .transition ⟨.restore, .adopter, 2, none, "came back"⟩,
        .transact [.flagProfiles .adopter "Bob"] true]
      let d := (Request.create .adopter ann).after ((fresh .epoch).after before)
      ((d.after first).store.tables.liveRow? .adopter 2).map LiveRow.archived = some (some true)
      ∧ (d.after (first ++ middle ++ last)).store.tables.liveRow? .adopter 2
        = some (LiveRow.fresh ann)
      ∧ ((d.after (first ++ middle ++ last)).store.tables.archivedRow? .adopter 1).isSome
        = true := by
  intro ann before first middle last d
  have created : .creation .adopter 2 ∈
      (Request.create .adopter ann).deeds ((fresh .epoch).after before) := by
    decide +kernel
  have unrevised : ∀ r ∈ first ++ middle ++ last, ¬ r.Revises := by
    simp [first, middle, last, Request.Revises]
  have survives := content_survives .epoch before (first ++ middle ++ last) .adopter ann 2 created
    unrevised
  let restore : Transition := ⟨.restore, .adopter, 2, none, "came back"⟩
  have restored : Deed.lastOn .adopter 2 ((d.after (first ++ middle)).deeds last)
      = some (.transition restore (restore.entry 3 Instant.epoch)) := by
    decide +kernel
  have unflagged : ∀ r ∈ last, ¬ r.Flags .adopter 2 ann := by
    simp [last, Request.Flags, Content.profileName?, ann, AdopterContent.ofName]
  have plain := survives.2.2.2 first middle last none "came back" _ rfl restored unflagged
  -- The database in the general statement is this one as it is written, so nothing is evaluated.
  have row : (d.after (first ++ middle ++ last)).store.tables.liveRow? .adopter 2
      = some (LiveRow.fresh ann) := by
    with_reducible exact plain.1
  exact ⟨by decide +kernel, row, by decide +kernel⟩

end Database

end AdoptionRecords
