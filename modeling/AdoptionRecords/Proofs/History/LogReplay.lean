import AdoptionRecords.Proofs.History.Fates
import AdoptionRecords.Proofs.Store.Logging
import Mathlib.Data.List.Basic

/-! The log replays to the store. While no log entries are removed, the log holds one entry for each
transition that lasts, in their order; and what it tells of a record, read as a word from the live
record on, ends where the record is.
-/

namespace AdoptionRecords

open Calendar

/-- The log entry of a deed, if it has one. -/
def Deed.entry? : Deed → Option LogEntry
  | creation .. => none
  | transition _ entry => some entry
  | note _ entry => some entry

/-- A deed tells in its log entry what was asked for. -/
def Deed.IsFaithful : Deed → Prop
  | creation .. => True
  | transition t entry => ∃ made, entry.TellsOf t made
  | note t entry => ∃ made, entry.TellsOf t made

/-- A deed writes about a record by itself if it is a log entry without a transition. -/
def Deed.NotesAbout (kind : Kind) (key : Int) : Deed → Prop
  | note t _ => t.kind = kind ∧ t.key = key
  | _ => False

instance (kind : Kind) (key : Int) : (deed : Deed) → Decidable (deed.NotesAbout kind key)
  | .note .. => inferInstanceAs (Decidable (_ ∧ _))
  | .creation .. | .transition .. => inferInstanceAs (Decidable False)

/-- The operation of a deed on a record, if the deed is a transition of it. -/
def Deed.operationOn (kind : Kind) (key : Int) : Deed → Option Operation
  | transition t _ => if t.kind = kind ∧ t.key = key then some t.operation else none
  | _ => none

/-- A deed that does not concern a record is no operation on it. -/
theorem Deed.operationOn_of_apart {kind : Kind} {key : Int} {deed : Deed}
    (apart : ¬ deed.Concerns kind key)
    : deed.operationOn kind key = none := by
  cases deed with
  | transition t entry => exact if_neg apart
  | creation | note => rfl

/-- A request may remove log entries. -/
def Request.Prunes : Request → Prop
  | retain _ | cleanUpLog _ | pruneLog _ => True
  | _ => False

/-- A request that removes no log entries does not cause their removal. -/
theorem Request.not_causes_prune {r : Request} {d : Database} {s : Store}
    {keep : Int → LogRow → Bool} (kept : ¬ r.Prunes)
    : ¬ r.Causes d s (.prune keep) := by
  cases r <;>
    simp_all [Request.Causes, Request.Prunes, Change.IsOfUpdate, Change.IsOfCalls, Change.Archives]

/-- The log of a store holds the entries of the deeds so far, in their order, and numbers are drawn
above theirs.
-/
structure Logged (past : List Deed) (s : Store) : Prop where
  held : s.tables.Logs (past.filterMap Deed.entry?)
  below : ∀ e ∈ past.filterMap Deed.entry?, e.number < s.sequences.log
  faithful : ∀ deed ∈ past, deed.IsFaithful

namespace Logged

variable {past : List Deed} {s after : Store} {now : Instant}

/-- Keys that are drawn in vain change nothing of the log. -/
theorem stay (h : Logged past s) (tables : after.tables = s.tables)
    (sequences : s.sequences ≤ after.sequences)
    : Logged past after where
  held := by
    rw [tables]
    exact h.held
  below e member := Int.lt_of_lt_of_le (h.below e member) sequences.2
  faithful := h.faithful

/-- One more faithful deed leaves all deeds faithful. -/
theorem faithful_append {deed : Deed} (h : Logged past s) (last : deed.IsFaithful)
    : ∀ d ∈ past ++ [deed], d.IsFaithful := by
  intro d member
  rcases List.mem_append.mp member with earlier | same
  · exact h.faithful d earlier
  · rw [List.mem_singleton.mp same]
    exact last

/-- A deed without an entry changes nothing of the log. -/
theorem append_silent {deed : Deed} (h : Logged past s) (log : after.tables.log = s.tables.log)
    (sequences : s.sequences ≤ after.sequences) (silent : deed.entry? = none)
    (faithful : deed.IsFaithful)
    : Logged (past ++ [deed]) after := by
  have entries : (past ++ [deed]).filterMap Deed.entry? = past.filterMap Deed.entry? := by
    simp [silent]
  obtain ⟨rows, present, same⟩ := h.held
  refine ⟨?_, ?_, h.faithful_append faithful⟩
  · rw [entries]
    exact ⟨rows, log.trans present, same⟩
  · rw [entries]
    intro e member
    exact Int.lt_of_lt_of_le (h.below e member) sequences.2

/-- An entry with the next number is held after those of the deeds so far. -/
theorem append {deed : Deed} {t : Transition} {tables : Tables} {rows : Table LogRow}
    (h : Logged past s) (log : tables.log = s.tables.log) (present : tables.log = some rows)
    (entered : deed.entry? = some (t.entry s.sequences.log now)) (faithful : deed.IsFaithful)
    : Logged (past ++ [deed])
        { s.numbered with
          tables := tables.setLog
            (rows.insert s.sequences.log (t.entry s.sequences.log now).row) } := by
  have entries : (past ++ [deed]).filterMap Deed.entry?
      = past.filterMap Deed.entry? ++ [t.entry s.sequences.log now] := by
    simp [entered]
  refine ⟨?_, ?_, h.faithful_append faithful⟩
  · rw [entries]
    obtain ⟨rows', present', same⟩ := h.held
    have holds : tables.Logs (past.filterMap Deed.entry?) := ⟨rows', log.trans present', same⟩
    exact holds.insert (t.entry s.sequences.log now) present h.below
  · rw [entries]
    exact LogEntry.below_append h.below rfl

/-- Every change that can happen, but the removal of log entries, goes on filling the log. -/
theorem step {c : Change} (h : Logged past s) (made : s.Makes now c after)
    (kept : ∀ keep, c ≠ .prune keep)
    : Logged (past ++ c.deeds) after := by
  have sequences := made.sequences_le
  cases made with
  | create present free => exact h.append_silent rfl sequences rfl trivial
  | @transition t _ _ moves present free =>
      exact h.append moves.log_eq present rfl ⟨now, t.tellsOf_entry _ now⟩
  | @note t _ present free => exact h.append rfl present rfl ⟨now, t.tellsOf_entry _ now⟩
  | amend present =>
      rw [Change.deeds, List.append_nil]
      exact ⟨h.held, h.below, h.faithful⟩
  | prune => exact (kept _ rfl).elim
  | complete =>
      rw [Change.deeds, List.append_nil]
      obtain ⟨⟨rows, present, same⟩, below, faithful⟩ := h
      refine ⟨⟨rows, ?_, same⟩, below, faithful⟩
      simp [Tables.complete, present]

/-- In a fresh database the log is empty. -/
theorem fresh (clock : Instant) : Logged [] (Database.fresh clock).store where
  held := ⟨Table.empty, rfl, rfl⟩
  below := by simp
  faithful := by simp

/-- While no request removes log entries, the log holds the entries of all deeds. -/
theorem reached (clock : Instant) {requests : List Request} (kept : ∀ r ∈ requests, ¬ r.Prunes)
    : Logged ((Database.fresh clock).deeds requests)
        ((Database.fresh clock).after requests).store := by
  have throughout : (Database.fresh clock).Throughout (fun _ r => ¬ r.Prunes) requests :=
    .of_forall (fun r member _ => kept r member) _
  refine Database.preserves Logged (fun _ _ _ held => held.stay) ?_ throughout
    (fresh clock)
  intro d r past s c after keeps caused held made
  refine held.step made ?_
  intro keep pruned
  rw [pruned] at caused
  exact Request.not_causes_prune keeps caused

end Logged

namespace Fate

/-- The fate of a record after a word of operations, if each of them suits it in turn. -/
def read : Fate → List Operation → Option Fate
  | fate, [] => some fate
  | fate, operation :: rest => (fate.operate operation).bind fun next => next.read rest

variable {kind : Kind} {key : Int} {fate last : Fate} {deeds : List Deed}

/-- From its birth on, the fate of a record is what the word of its operations spells, by induction
on the deeds.
-/
theorem read_of_replay (h : fate.replay kind key deeds = some last) (born : fate ≠ unborn)
    : fate.read (deeds.filterMap (·.operationOn kind key)) = some last := by
  induction deeds generalizing fate with
  | nil => exact h
  | cons deed rest ih =>
      obtain ⟨next, suits, tail⟩ := replay_cons_eq_some h
      rcases step_eq_some suits with ⟨apart, rfl⟩ | ⟨concerned, met⟩
      · rw [List.filterMap_cons_none (Deed.operationOn_of_apart apart)]
        exact ih tail born
      · rcases meet_eq_some met with ⟨unborn, -⟩ | ⟨t, entry, rfl, operates⟩
        · exact (born unborn).elim
        · have tells : (Deed.transition t entry).operationOn kind key = some t.operation :=
            if_pos concerned
          rw [List.filterMap_cons_some tells, read, operates]
          exact ih tail (ne_unborn_of_meet met)

/-- A record that was created has the fate that the word of its operations spells from the live
record on, by induction on the deeds.
-/
theorem read_of_created (h : unborn.replay kind key deeds = some last) (born : last ≠ unborn)
    : live.read (deeds.filterMap (·.operationOn kind key)) = some last := by
  induction deeds with
  | nil =>
      cases h
      exact (born rfl).elim
  | cons deed rest ih =>
      obtain ⟨next, suits, tail⟩ := replay_cons_eq_some h
      rcases step_eq_some suits with ⟨apart, rfl⟩ | ⟨concerned, met⟩
      · rw [List.filterMap_cons_none (Deed.operationOn_of_apart apart)]
        exact ih tail
      · rcases meet_eq_some met with ⟨-, ⟨k, i, rfl⟩, rfl⟩ | ⟨t, entry, rfl, operates⟩
        · rw [List.filterMap_cons_none rfl]
          exact read_of_replay tail (by decide)
        · rcases operate_eq_some operates with ⟨⟨⟩, -⟩ | ⟨⟨⟩, -⟩ | ⟨⟨⟩, -⟩

end Fate

/-- What the entry of a deed tells of a record is the operation on it, unless the deed only writes
about the record.
-/
theorem Deed.operation_about {kind : Kind} {key : Int} {deed : Deed}
    (faithful : deed.IsFaithful) (unnoted : ¬ deed.NotesAbout kind key)
    : (Option.filter (·.isAbout kind key) deed.entry?).map (·.operation)
      = deed.operationOn kind key := by
  cases deed with
  | creation => rfl
  | transition t entry =>
      obtain ⟨made, tells⟩ := faithful
      show (Option.filter _ (some entry)).map _ = _
      by_cases concerned : t.kind = kind ∧ t.key = key
      · rw [Option.filter_some, if_pos (tells.isAbout_iff.mpr concerned), operationOn,
          if_pos concerned, ← tells.operation]
        rfl
      · have other : ¬ entry.isAbout kind key = true :=
          fun about => concerned (tells.isAbout_iff.mp about)
        rw [Option.filter_some, if_neg other, operationOn, if_neg concerned]
        rfl
  | note t entry =>
      obtain ⟨made, tells⟩ := faithful
      have other : ¬ entry.isAbout kind key = true :=
        fun about => unnoted (tells.isAbout_iff.mp about)
      show (Option.filter _ (some entry)).map _ = _
      rw [Option.filter_some, if_neg other]
      rfl

/-- What the log holds about a record are the operations on it, unless something was written about
it by itself.
-/
theorem operations_about {kind : Kind} {key : Int} {deeds : List Deed}
    (faithful : ∀ deed ∈ deeds, deed.IsFaithful)
    (unnoted : ∀ deed ∈ deeds, ¬ deed.NotesAbout kind key)
    : ((deeds.filterMap Deed.entry?).filter (·.isAbout kind key)).map (·.operation)
      = deeds.filterMap (·.operationOn kind key) := by
  rw [List.filter_filterMap, List.map_filterMap]
  refine List.filterMap_congr ?_
  intro deed member
  exact Deed.operation_about (faithful deed member) (unnoted deed member)

/-- Whatever is asked of a fresh database but the removal of log entries, the log holds the entries
of the deeds in their order. Each tells of its transition, made at the instant of the request: the
live table and the key of the record, the operation, the actor and the reason. What the log tells of a
record that was created, if nothing was written about the record by itself, is a word of operations
that leads from the live record to where the record is.
-/
theorem Database.log_replays (clock : Instant) (requests : List Request)
    (kept : ∀ r ∈ requests, ¬ r.Prunes)
    : let d := Database.fresh clock
      let deeds := d.deeds requests
      let store := (d.after requests).store
      (store.tables.Logs (deeds.filterMap Deed.entry?)
        ∧ (deeds.filterMap Deed.entry?).Pairwise fun a b => a.number < b.number)
      ∧ (∀ before r rest, requests = before ++ r :: rest
        → ∀ t entry, .transition t entry ∈ r.deeds (d.after before)
          ∨ .note t entry ∈ r.deeds (d.after before)
        → entry.TellsOf t (d.after before).now)
      ∧ ∀ kind key, .creation kind key ∈ deeds → (∀ deed ∈ deeds, ¬ deed.NotesAbout kind key)
        → ∃ history fate,
            store.ask (Log.history kind key) = .ok history
            ∧ Fate.live.read (history.map (·.operation)) = some fate
            ∧ ((fate = .live ∧ store.tables.IsLive kind key ∧ ¬ store.tables.IsArchived kind key)
              ∨ (fate = .archived ∧ ¬ store.tables.IsLive kind key
                ∧ store.tables.IsArchived kind key)
              ∨ (fate = .gone ∧ ¬ store.tables.IsLive kind key
                ∧ ¬ store.tables.IsArchived kind key)) := by
  have logged := Logged.reached clock kept
  refine ⟨⟨logged.held, logged.held.ascending⟩, ?_, ?_⟩
  · intro before r rest _ t entry done
    obtain ⟨number, rfl⟩ := (r.runs _).stamped done
    exact t.tellsOf_entry number _
  · intro kind key created unnoted
    obtain ⟨fate, replayed, holds⟩ := Located.reached clock requests kind key
    have born := Fate.ne_unborn_of_creation replayed created
    refine ⟨_, fate, Store.ask_history logged.held kind key, ?_, ?_⟩
    · rw [operations_about logged.faithful unnoted]
      exact Fate.read_of_created replayed born
    · rw [holds.live, holds.archived]
      cases fate with
      | unborn => exact (born rfl).elim
      | live | archived | gone => simp

/-- The history of a pet owner who was archived, restored, archived again and purged spells that the
owner is gone.
-/
theorem Database.log_replays_of_owner
    : let requests : List Request := [
        .create .petOwner (PetOwnerContent.ofName "Ann"),
        .transition ⟨.archive, .petOwner, 1, none, "moved away"⟩,
        .transition ⟨.restore, .petOwner, 1, some 7, "came back"⟩,
        .transition ⟨.archive, .petOwner, 1, none, "moved away again"⟩,
        .transition ⟨.permanentDelete, .petOwner, 1, none, "asked to be forgotten"⟩]
      let store := ((Database.fresh .epoch).after requests).store
      (∀ r ∈ requests, ¬ r.Prunes)
      ∧ ∃ history,
          store.ask (Log.history .petOwner 1) = .ok history
          ∧ Fate.live.read (history.map (·.operation)) = some .gone := by
  intro requests store
  have kept : ∀ r ∈ requests, ¬ r.Prunes := by simp [requests, Request.Prunes]
  obtain ⟨history, fate, asked, spelled, ends⟩ :=
    (Database.log_replays .epoch requests kept).2.2 .petOwner 1 (by decide +kernel)
      (by decide +kernel)
  have notLive : ¬ store.tables.IsLive .petOwner 1 := by decide +kernel
  have notArchived : ¬ store.tables.IsArchived .petOwner 1 := by decide +kernel
  rcases ends with ⟨-, there, -⟩ | ⟨-, -, there⟩ | ⟨rfl, -⟩
  · exact (notLive there).elim
  · exact (notArchived there).elim
  · exact ⟨kept, history, asked, spelled⟩

end AdoptionRecords
