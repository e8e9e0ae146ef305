import AdoptionRecords.Proofs.Store.Rows
import AdoptionRecords.Proofs.History.Requests

/-! The fate of each record, followed through the deeds of a database. A record is created live,
moves to the archive and back, and may be gone for good. The fate that the deeds tell of is where
the store keeps the record, and keys are drawn above all keys that were created.
-/

namespace AdoptionRecords

open Calendar

/-- What became of a record: it was never created, it is live, it is archived, or it is gone. -/
inductive Fate
  | unborn
  | live
  | archived
  | gone
  deriving DecidableEq, Repr

/-- A deed concerns a record if it creates it or is a transition of it. -/
def Deed.Concerns (kind : Kind) (key : Int) : Deed → Prop
  | creation k i => k = kind ∧ i = key
  | transition t _ => t.kind = kind ∧ t.key = key
  | note .. => False

/-- A deed purges a record if it removes the record for good. -/
def Deed.Purges (kind : Kind) (key : Int) : Deed → Prop
  | transition t _ => t.operation = .permanentDelete ∧ t.kind = kind ∧ t.key = key
  | _ => False

instance (kind : Kind) (key : Int) : (deed : Deed) → Decidable (deed.Concerns kind key)
  | .creation .. | .transition .. => inferInstanceAs (Decidable (_ ∧ _))
  | .note .. => inferInstanceAs (Decidable False)

instance (kind : Kind) (key : Int) : (deed : Deed) → Decidable (deed.Purges kind key)
  | .transition .. => inferInstanceAs (Decidable (_ ∧ _ ∧ _))
  | .creation .. | .note .. => inferInstanceAs (Decidable False)

namespace Fate

/-- The fate of a record after an operation, if the operation suits it. -/
def operate : Fate → Operation → Option Fate
  | live, .archive => some archived
  | archived, .restore => some live
  | archived, .permanentDelete => some gone
  | _, _ => none

/-- The fate of a record after a deed that concerns it, if the deed suits it. -/
def meet : Fate → Deed → Option Fate
  | unborn, .creation .. => some live
  | fate, .transition t _ => fate.operate t.operation
  | _, _ => none

@[simp]
theorem meet_transition (fate : Fate) (t : Transition) (entry : LogEntry)
    : fate.meet (.transition t entry) = fate.operate t.operation := by
  cases fate <;> rfl

/-- The fate of a record after a deed, if the deed suits it or does not concern it. -/
def step (kind : Kind) (key : Int) (fate : Fate) (deed : Deed) : Option Fate :=
  if deed.Concerns kind key then fate.meet deed else some fate

/-- The fate of a record after deeds, if each of them suits it in turn. -/
def replay (kind : Kind) (key : Int) : Fate → List Deed → Option Fate
  | fate, [] => some fate
  | fate, deed :: rest => (fate.step kind key deed).bind fun next => next.replay kind key rest

variable {kind : Kind} {key : Int} {fate last : Fate} {deed : Deed} {deeds : List Deed}

/-- Deeds in two parts lead to the fate after the second, from that after the first. -/
theorem replay_append (fate : Fate) (first second : List Deed)
    : fate.replay kind key (first ++ second) =
      (fate.replay kind key first).bind fun middle => middle.replay kind key second := by
  induction first generalizing fate with
  | nil => rfl
  | cons deed rest ih => cases h : fate.step kind key deed <;> simp [replay, h, ih]

theorem replay_singleton (fate : Fate) (deed : Deed)
    : fate.replay kind key [deed] = fate.step kind key deed := by
  cases h : fate.step kind key deed <;> simp [replay, h]

/-- A deed that does not concern a record leaves its fate as it is. -/
theorem step_of_not_concerns (fate : Fate) (h : ¬ deed.Concerns kind key)
    : fate.step kind key deed = some fate := by
  rw [step, if_neg h]

theorem step_of_concerns (fate : Fate) (h : deed.Concerns kind key)
    : fate.step kind key deed = fate.meet deed := by
  rw [step, if_pos h]

/-- An operation suits a fate in three ways only. -/
theorem operate_eq_some {operation : Operation} (h : fate.operate operation = some last)
    : (fate = live ∧ operation = .archive ∧ last = archived)
      ∨ (fate = archived ∧ operation = .restore ∧ last = live)
      ∨ (fate = archived ∧ operation = .permanentDelete ∧ last = gone) := by
  cases fate <;> cases operation <;> simp_all [operate]

/-- A deed that suits a fate creates an unborn record or is a transition that suits it. -/
theorem meet_eq_some (h : fate.meet deed = some last)
    : (fate = unborn ∧ (∃ k i, deed = .creation k i) ∧ last = live)
      ∨ ∃ t entry, deed = .transition t entry ∧ fate.operate t.operation = some last := by
  cases deed with
  | creation k i => cases fate <;> simp_all [meet]
  | transition t entry => exact .inr ⟨t, entry, rfl, by simpa [meet] using h⟩
  | note t entry => simp [meet] at h

/-- A deed leaves a fate as it is, unless it concerns the record; then it suits the fate. -/
theorem step_eq_some (h : fate.step kind key deed = some last)
    : (¬ deed.Concerns kind key ∧ last = fate)
      ∨ (deed.Concerns kind key ∧ fate.meet deed = some last) := by
  by_cases concerned : deed.Concerns kind key
  · exact .inr ⟨concerned, by rwa [step_of_concerns fate concerned] at h⟩
  · rw [step_of_not_concerns fate concerned] at h
    cases h
    exact .inl ⟨concerned, rfl⟩

/-- After one deed and more, the fate is that after the more from that after the one. -/
theorem replay_cons_eq_some (h : fate.replay kind key (deed :: deeds) = some last)
    : ∃ next, fate.step kind key deed = some next ∧ next.replay kind key deeds = some last :=
  Option.bind_eq_some_iff.mp h

/-- No deed makes a record unborn. -/
theorem ne_unborn_of_meet (h : fate.meet deed = some last) : last ≠ unborn := by
  rcases meet_eq_some h with ⟨-, -, rfl⟩ | ⟨_, _, -, suits⟩
  · decide
  · rcases operate_eq_some suits with ⟨-, -, rfl⟩ | ⟨-, -, rfl⟩ | ⟨-, -, rfl⟩ <;> decide

/-- A record that was born stays so, by induction on the deeds. -/
theorem ne_unborn_of_replay (h : fate.replay kind key deeds = some last) (born : fate ≠ unborn)
    : last ≠ unborn := by
  induction deeds generalizing fate with
  | nil =>
      cases h
      exact born
  | cons deed rest ih =>
      obtain ⟨next, suits, h⟩ := replay_cons_eq_some h
      refine ih h ?_
      rcases step_eq_some suits with ⟨-, rfl⟩ | ⟨-, met⟩
      · exact born
      · exact ne_unborn_of_meet met

/-- A record that was created is not unborn, by induction on the deeds. -/
theorem ne_unborn_of_creation (h : fate.replay kind key deeds = some last)
    (created : .creation kind key ∈ deeds)
    : last ≠ unborn := by
  induction deeds generalizing fate with
  | nil => cases created
  | cons deed rest ih =>
      obtain ⟨next, suits, tail⟩ := replay_cons_eq_some h
      rcases List.mem_cons.mp created with rfl | later
      · have concerned : (Deed.creation kind key).Concerns kind key := ⟨rfl, rfl⟩
        rw [step_of_concerns fate concerned] at suits
        exact ne_unborn_of_replay tail (ne_unborn_of_meet suits)
      · exact ih tail later

/-- A record that was not created is unborn, by induction on the deeds. -/
theorem eq_unborn_of_replay (h : unborn.replay kind key deeds = some last)
    (never : .creation kind key ∉ deeds)
    : last = unborn := by
  induction deeds with
  | nil =>
      cases h
      rfl
  | cons deed rest ih =>
      obtain ⟨next, suits, h⟩ := replay_cons_eq_some h
      rcases step_eq_some suits with ⟨-, rfl⟩ | ⟨concerned, met⟩
      · exact ih h fun member => never (List.mem_cons_of_mem _ member)
      · rcases meet_eq_some met with ⟨-, ⟨k, i, rfl⟩, -⟩ | ⟨_, _, -, suits⟩
        · obtain ⟨rfl, rfl⟩ := concerned
          exact (never (List.mem_cons_self ..)).elim
        · rcases operate_eq_some suits with ⟨⟨⟩, -⟩ | ⟨⟨⟩, -⟩ | ⟨⟨⟩, -⟩

/-- A record is gone only if a deed purged it, by induction on the deeds. -/
theorem purged_of_replay (h : fate.replay kind key deeds = some gone) (there : fate ≠ gone)
    : ∃ deed ∈ deeds, deed.Purges kind key := by
  induction deeds generalizing fate with
  | nil =>
      cases h
      exact (there rfl).elim
  | cons deed rest ih =>
      obtain ⟨next, suits, h⟩ := replay_cons_eq_some h
      by_cases goes : next = gone
      · refine ⟨deed, List.mem_cons_self .., ?_⟩
        subst goes
        rcases step_eq_some suits with ⟨-, same⟩ | ⟨concerned, met⟩
        · exact (there same.symm).elim
        · rcases meet_eq_some met with ⟨-, -, ⟨⟩⟩ | ⟨t, entry, rfl, operates⟩
          rcases operate_eq_some operates with ⟨-, -, ⟨⟩⟩ | ⟨-, -, ⟨⟩⟩ | ⟨-, operation, -⟩
          exact ⟨operation, concerned⟩
      · obtain ⟨purge, member, purges⟩ := ih h goes
        exact ⟨purge, List.mem_cons_of_mem _ member, purges⟩

/-- A deed that purges a record makes it gone. -/
theorem eq_gone_of_purges (h : fate.step kind key deed = some last) (purges : deed.Purges kind key)
    : last = gone := by
  cases deed with
  | creation | note => exact purges.elim
  | transition t entry =>
      obtain ⟨operation, own⟩ := purges
      have concerned : (Deed.transition t entry).Concerns kind key := own
      rw [step_of_concerns fate concerned, meet_transition, operation] at h
      rcases operate_eq_some h with ⟨-, ⟨⟩, -⟩ | ⟨-, ⟨⟩, -⟩ | ⟨-, -, rfl⟩
      rfl

/-- A record that is gone stays so, and nothing concerns it any more, by induction on the deeds. -/
theorem eq_gone_of_replay (h : gone.replay kind key deeds = some last)
    : last = gone ∧ ∀ deed ∈ deeds, ¬ deed.Concerns kind key := by
  induction deeds with
  | nil =>
      cases h
      exact ⟨rfl, by simp⟩
  | cons deed rest ih =>
      obtain ⟨next, suits, h⟩ := replay_cons_eq_some h
      rcases step_eq_some suits with ⟨apart, rfl⟩ | ⟨-, met⟩
      · obtain ⟨same, rest⟩ := ih h
        exact ⟨same, List.forall_mem_cons.mpr ⟨apart, rest⟩⟩
      · rcases meet_eq_some met with ⟨⟨⟩, -⟩ | ⟨_, _, -, suits⟩
        rcases operate_eq_some suits with ⟨⟨⟩, -⟩ | ⟨⟨⟩, -⟩ | ⟨⟨⟩, -⟩

/-- Deeds that do not concern a record leave its fate as it is, by induction on them. -/
theorem replay_of_apart (fate : Fate) (h : ∀ deed ∈ deeds, ¬ deed.Concerns kind key)
    : fate.replay kind key deeds = some fate := by
  induction deeds with
  | nil => rfl
  | cons deed rest ih =>
      obtain ⟨apart, h⟩ := List.forall_mem_cons.mp h
      rw [replay, step_of_not_concerns fate apart]
      exact ih h

/-- A fate is where the store keeps the record, whose key was drawn if the record was born. -/
structure Holds (fate : Fate) (s : Store) (kind : Kind) (key : Int) : Prop where
  live : s.tables.IsLive kind key ↔ fate = live
  archived : s.tables.IsArchived kind key ↔ fate = archived
  drawn : fate ≠ unborn → key < s.sequences.live kind

end Fate

/-- A change whose deeds do not concern a record leaves its archived row alone, and its live row as
well unless it amends it where it stands.
-/
theorem Store.Makes.rows_of_apart {now : Instant} {s after : Store} {c : Change} {kind : Kind}
    {key : Int} (h : s.Makes now c after) (apart : ∀ deed ∈ c.deeds, ¬ deed.Concerns kind key)
    : after.tables.archivedRow? kind key = s.tables.archivedRow? kind key
      ∧ (after.tables.liveRow? kind key = s.tables.liveRow? kind key
        ∨ ∃ amendment, c = .amend kind amendment
          ∧ after.tables.liveRow? kind key
            = (s.tables.liveRow? kind key).map (amendment.apply now key)) := by
  cases h with
  | @create _ content rows present free =>
      have live := Tables.liveRow?_setLive_apart present
        (fun _ h => Table.find?_insert_of_ne (LiveRow.fresh content) h)
        (apart _ (List.mem_singleton_self _))
      exact ⟨rfl, .inl live⟩
  | transition moves present free =>
      have rows := moves.rows_of_other (apart _ (List.mem_singleton_self _))
      exact ⟨rows.2, .inl rows.1⟩
  | @amend own rows amendment present =>
      refine ⟨rfl, ?_⟩
      by_cases same : own = kind
      · subst same
        refine .inr ⟨amendment, rfl, ?_⟩
        rw [Tables.liveRow?_setLive_same, Table.find?_map, Tables.liveRow?_of_live present]
      · exact .inl (Tables.liveRow?_setLive_other _ _ _ _ same)
  | note | prune => exact ⟨rfl, .inl rfl⟩
  | complete =>
      exact ⟨s.tables.archivedRow?_complete kind key, .inl (s.tables.liveRow?_complete kind key)⟩

/-- A change whose deeds do not concern a record leaves the record's key where it is. -/
theorem Store.Makes.keeps_key {now : Instant} {s after : Store} {c : Change} {kind : Kind}
    {key : Int} (h : s.Makes now c after) (apart : ∀ deed ∈ c.deeds, ¬ deed.Concerns kind key)
    : (after.tables.IsLive kind key ↔ s.tables.IsLive kind key)
      ∧ (after.tables.IsArchived kind key ↔ s.tables.IsArchived kind key) := by
  obtain ⟨archived, live | ⟨amendment, -, live⟩⟩ := h.rows_of_apart apart
  · simp [Tables.IsLive, Tables.IsArchived, archived, live]
  · simp [Tables.IsLive, Tables.IsArchived, archived, live]

namespace Fate

variable {now : Instant} {s after : Store} {c : Change} {kind : Kind} {key : Int} {fate : Fate}

/-- A fate that holds goes on holding while the record stays in its tables. -/
theorem Holds.stay (h : fate.Holds s kind key)
    (live : after.tables.IsLive kind key ↔ s.tables.IsLive kind key)
    (archived : after.tables.IsArchived kind key ↔ s.tables.IsArchived kind key)
    (sequences : s.sequences ≤ after.sequences)
    : fate.Holds after kind key where
  live := live.trans h.live
  archived := archived.trans h.archived
  drawn born := Int.lt_of_lt_of_le (h.drawn born) (sequences.1 kind)

/-- A row is created under a key that was never drawn before, so the record was unborn. -/
theorem Holds.create {content : Content kind} {rows : Table (LiveRow kind)}
    (h : fate.Holds s kind (s.sequences.live kind))
    : fate = .unborn
      ∧ Fate.live.Holds
          { s.drawn kind with
            tables := s.tables.setLive kind
              (rows.insert (s.sequences.live kind) (LiveRow.fresh content)) }
          kind (s.sequences.live kind) := by
  have unborn : fate = .unborn :=
    Decidable.byContradiction fun born => Int.lt_irrefl _ (h.drawn born)
  refine ⟨unborn, ?_, ?_, ?_⟩
  · simp [Tables.IsLive, Table.find?_insert]
  · have outside := h.archived
    rw [unborn] at outside
    simpa [Tables.IsArchived] using outside
  · intro _
    simp only [Store.drawn, Store.setSequence, if_true]
    omega

/-- A transition that can be made suits the fate of its record, and leads to its fate after it. -/
theorem Holds.transition {t : Transition} {tables : Tables} (h : fate.Holds s t.kind t.key)
    (moves : t.Moves now s.tables tables) (same : after.tables.liveRow? = tables.liveRow?)
    (same' : after.tables.archivedRow? = tables.archivedRow?)
    (sequences : s.sequences ≤ after.sequences)
    : ∃ next, fate.operate t.operation = some next ∧ next.Holds after t.kind t.key := by
  obtain ⟨live, archived, drawn⟩ := h
  have places := moves.places
  have located : (after.tables.IsLive t.kind t.key ↔ tables.IsLive t.kind t.key)
      ∧ (after.tables.IsArchived t.kind t.key ↔ tables.IsArchived t.kind t.key) := by
    simp only [Tables.IsLive, Tables.IsArchived, same, same', true_and]
  -- The key was drawn when the record was born, and sequences only ascend.
  have below : ∀ next : Fate, fate ≠ .unborn → next ≠ .unborn →
      t.key < after.sequences.live t.kind :=
    fun _ born _ => Int.lt_of_lt_of_le (drawn born) (sequences.1 t.kind)
  cases operation : t.operation with
  | archive =>
      simp only [operation, live, archived] at places
      obtain ⟨rfl, -, gone, there⟩ := places
      exact ⟨.archived, rfl, by simpa [located.1] using gone, by simpa [located.2] using there,
        fun _ => below .archived (by decide) (by decide)⟩
  | restore =>
      simp only [operation, live, archived] at places
      obtain ⟨-, rfl, there, gone⟩ := places
      exact ⟨.live, rfl, by simpa [located.1] using there, by simpa [located.2] using gone,
        fun _ => below .live (by decide) (by decide)⟩
  | permanentDelete =>
      simp only [operation, live, archived] at places
      obtain ⟨rfl, gone, nowhere⟩ := places
      exact ⟨.gone, rfl, by simpa [located.1] using nowhere, by simpa [located.2] using gone,
        fun _ => below .gone (by decide) (by decide)⟩

/-- A change that can happen suits the fate of every record, and leads to its fate after it. -/
theorem Holds.step (h : fate.Holds s kind key) (made : s.Makes now c after)
    : ∃ next, fate.replay kind key c.deeds = some next ∧ next.Holds after kind key := by
  have sequences := made.sequences_le
  by_cases apart : ∀ deed ∈ c.deeds, ¬ deed.Concerns kind key
  · obtain ⟨live, archived⟩ := made.keeps_key apart
    exact ⟨fate, replay_of_apart fate apart, h.stay live archived sequences⟩
  cases made with
  | create present free =>
      simp only [Change.deeds, List.mem_singleton, forall_eq, Decidable.not_not] at apart
      rw [Change.deeds, replay_singleton, step_of_concerns fate apart]
      obtain ⟨rfl, rfl⟩ := apart
      obtain ⟨rfl, holds⟩ := h.create
      exact ⟨.live, rfl, holds⟩
  | transition moves present free =>
      simp only [Change.deeds, List.mem_singleton, forall_eq, Decidable.not_not] at apart
      rw [Change.deeds, replay_singleton, step_of_concerns fate apart, meet_transition]
      obtain ⟨rfl, rfl⟩ := apart
      exact h.transition moves rfl rfl sequences
  | note => simp [Change.deeds, Deed.Concerns] at apart
  | amend | prune | complete => simp [Change.deeds] at apart

end Fate

/-- The deeds so far tell the fate of every record of a store. -/
def Located (past : List Deed) (s : Store) : Prop :=
  ∀ kind key, ∃ fate, Fate.unborn.replay kind key past = some fate ∧ fate.Holds s kind key

namespace Located

variable {past : List Deed} {s after : Store}

/-- Keys that are drawn in vain change no fate. -/
theorem stay (h : Located past s) (tables : after.tables = s.tables)
    (sequences : s.sequences ≤ after.sequences)
    : Located past after := by
  intro kind key
  obtain ⟨fate, replayed, holds⟩ := h kind key
  exact ⟨fate, replayed, holds.stay (by rw [tables]) (by rw [tables]) sequences⟩

/-- Every change that can happen goes on telling the fates. -/
theorem step {now : Instant} {c : Change} (h : Located past s) (made : s.Makes now c after)
    : Located (past ++ c.deeds) after := by
  intro kind key
  obtain ⟨fate, replayed, holds⟩ := h kind key
  obtain ⟨next, suits, holds⟩ := holds.step made
  refine ⟨next, ?_, holds⟩
  rw [Fate.replay_append, replayed]
  exact suits

/-- A run goes on telling the fates. -/
theorem run {now : Instant} {may : Store → Change → Prop} {deeds : List Deed}
    (h : Located past s) (runs : s.Runs now may deeds after)
    : Located (past ++ deeds) after :=
  runs.preserves Located (fun _ _ _ held => held.stay) (fun _ _ _ _ held _ made => held.step made) h

/-- Without tables there are no records, and none was ever created. -/
theorem unmigrated : Located [] Store.unmigrated :=
  fun kind key => ⟨.unborn, rfl, by simp [Tables.IsLive, Tables.liveRow?, Store.unmigrated,
    Tables.absent], by simp [Tables.IsArchived, Tables.archivedRow?, Store.unmigrated,
    Tables.absent], fun born => (born rfl).elim⟩

/-- In a fresh database no record was ever created. -/
theorem fresh (clock : Instant) : Located [] (Database.fresh clock).store := by
  have runs : Store.unmigrated.Runs clock.stored (fun _ _ => True) []
      (Database.fresh clock).store :=
    Store.Runs.of_perform (fun _ => []) (fun _ _ h => h.runs_schema.mono (by simp))
      (fun _ _ h => ((Work.writesLast_schema _).stops h).sequences) (fun _ => rfl)
  exact unmigrated.run runs

/-- Whatever is asked of a fresh database, its deeds tell the fate of every record. -/
theorem reached (clock : Instant) (requests : List Request)
    : Located ((Database.fresh clock).deeds requests)
        ((Database.fresh clock).after requests).store := by
  have any : (Database.fresh clock).Throughout (fun _ _ => True) requests :=
    .of_forall (fun _ _ _ => trivial) _
  exact Database.preserves Located (fun _ _ _ held => held.stay)
    (fun _ _ _ _ _ _ _ _ held made => held.step made) any (fresh clock)

variable {kind : Kind} {key : Int}

/-- No record is both live and archived: it has one fate. -/
theorem not_both (h : Located past s) (kind : Kind) (key : Int) (live : s.tables.IsLive kind key)
    : ¬ s.tables.IsArchived kind key := by
  obtain ⟨fate, -, holds⟩ := h kind key
  rw [holds.live] at live
  rw [holds.archived, live]
  decide

/-- A record that was not created is in neither table. -/
theorem nowhere_of_not_created (h : Located past s) (never : .creation kind key ∉ past)
    : ¬ s.tables.IsLive kind key ∧ ¬ s.tables.IsArchived kind key := by
  obtain ⟨fate, replayed, holds⟩ := h kind key
  have unborn := Fate.eq_unborn_of_replay replayed never
  subst unborn
  simp [holds.live, holds.archived]

/-- A record that was created and not purged is in exactly one table. -/
theorem somewhere_of_not_purged (h : Located past s) (created : .creation kind key ∈ past)
    (kept : ∀ deed ∈ past, ¬ deed.Purges kind key)
    : (s.tables.IsLive kind key ∧ ¬ s.tables.IsArchived kind key)
      ∨ (¬ s.tables.IsLive kind key ∧ s.tables.IsArchived kind key) := by
  obtain ⟨fate, replayed, holds⟩ := h kind key
  rw [holds.live, holds.archived]
  cases fate with
  | unborn => exact (Fate.ne_unborn_of_creation replayed created rfl).elim
  | live => simp
  | archived => simp
  | gone =>
      obtain ⟨deed, member, purges⟩ := Fate.purged_of_replay replayed (by decide)
      exact (kept deed member purges).elim

/-- A record that was purged is in neither table, and no later deed concerns it. -/
theorem nowhere_of_purged {purge : Deed} {later : List Deed}
    (h : Located (past ++ purge :: later) s) (purges : purge.Purges kind key)
    : (¬ s.tables.IsLive kind key ∧ ¬ s.tables.IsArchived kind key)
      ∧ ∀ deed ∈ later, ¬ deed.Concerns kind key := by
  obtain ⟨fate, replayed, holds⟩ := h kind key
  rw [Fate.replay_append] at replayed
  obtain ⟨before, -, replayed⟩ := Option.bind_eq_some_iff.mp replayed
  obtain ⟨next, suits, rest⟩ := Fate.replay_cons_eq_some replayed
  have gone := Fate.eq_gone_of_purges suits purges
  subst gone
  obtain ⟨rfl, apart⟩ := Fate.eq_gone_of_replay rest
  exact ⟨by simp [holds.live, holds.archived], apart⟩

/-- A record that is live was not purged. -/
theorem not_purged_of_live (h : Located past s) (live : s.tables.IsLive kind key)
    : ∀ deed ∈ past, ¬ deed.Purges kind key := by
  intro deed member purges
  obtain ⟨before, later, rfl⟩ := List.append_of_mem member
  exact (h.nowhere_of_purged purges).1.1 live

end Located

/-- Whatever is asked of a fresh database, a record is in neither table before it is created, in
exactly one from then on, and in neither once it was purged; then nothing that concerns it is done
any more, not even in a transaction that does not last.
-/
theorem Database.one_place_until_purged (clock : Instant) (requests : List Request) (kind : Kind)
    (key : Int)
    : let d := Database.fresh clock
      let tables := (d.after requests).store.tables
      (.creation kind key ∉ d.deeds requests
        → ¬ tables.IsLive kind key ∧ ¬ tables.IsArchived kind key)
      ∧ (.creation kind key ∈ d.deeds requests
        → (∀ deed ∈ d.deeds requests, ¬ deed.Purges kind key)
        → (tables.IsLive kind key ∧ ¬ tables.IsArchived kind key)
          ∨ (¬ tables.IsLive kind key ∧ tables.IsArchived kind key))
      ∧ (∀ past purge later, d.deeds requests = past ++ purge :: later → purge.Purges kind key
        → (¬ tables.IsLive kind key ∧ ¬ tables.IsArchived kind key)
          ∧ ∀ deed ∈ later, ¬ deed.Concerns kind key)
      ∧ (∀ before r rest, requests = before ++ r :: rest
        → (∃ purge ∈ d.deeds before, purge.Purges kind key)
        → ∀ deed ∈ r.answered (d.after before), ¬ deed.Concerns kind key) := by
  have located := Located.reached clock requests
  refine ⟨located.nowhere_of_not_created, located.somewhere_of_not_purged, ?_, ?_⟩
  · intro past purge later deeds purges
    rw [deeds] at located
    exact located.nowhere_of_purged purges
  · intro before r rest _ purged deed answered
    obtain ⟨purge, member, purges⟩ := purged
    obtain ⟨past, later, split⟩ := List.append_of_mem member
    -- What is answered extends the run so far, whether it lasts or not.
    obtain ⟨reached, run⟩ := r.runs_answered ((Database.fresh clock).after before)
    have further := (Located.reached clock before).run run
    rw [split, List.append_assoc, List.cons_append] at further
    exact (further.nowhere_of_purged purges).2 deed (List.mem_append_right _ answered)

/-- A pet owner who was created, archived and purged is in neither table. -/
theorem Database.one_place_until_purged_of_owner
    : let requests : List Request := [
        .create .petOwner (PetOwnerContent.ofName "Ann"),
        .transition ⟨.archive, .petOwner, 1, none, "moved away"⟩,
        .transition ⟨.permanentDelete, .petOwner, 1, none, "asked to be forgotten"⟩]
      let d := Database.fresh .epoch
      let tables := (d.after requests).store.tables
      (∃ purge ∈ d.deeds requests, purge.Purges .petOwner 1)
      ∧ ¬ tables.IsLive .petOwner 1 ∧ ¬ tables.IsArchived .petOwner 1 := by
  intro requests d tables
  let deeds := d.deeds requests
  let last := deeds.get ⟨2, by decide +kernel⟩
  have split : deeds = deeds.take 2 ++ last :: [] := by decide +kernel
  have purges : last.Purges .petOwner 1 := by decide +kernel
  have purged := (Database.one_place_until_purged .epoch requests .petOwner 1).2.2.1 _ _ _ split
    purges
  exact ⟨⟨last, List.get_mem .., purges⟩, purged.1⟩

end AdoptionRecords
