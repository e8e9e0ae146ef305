import AdoptionRecords.Flag
import AdoptionRecords.Proofs.Store.Moves

/-! The changes that can happen to a store, and runs of them. Every unit of work of the library
changes a store in a few ways only, and a run is any number of such changes with the deeds that
they leave behind. What each change preserves, every run preserves.
-/

namespace AdoptionRecords

open Calendar

/-- Rows that are changed where they stand keep their keys and their order. -/
theorem Table.insert_eq_map {α : Type} {t : Table α} {key : Int} {row : α} (change : α → α)
    (h : t.find? key = some row)
    : t.insert key (change row) = t.map fun k r => if k = key then change r else r := by
  ext1 other
  rw [find?_insert, find?_map]
  by_cases same : other = key
  · subst same
    simp [h]
  · simp [same]

/-- A thing done that lasts: a row created under a key, a transition carried out with its log
entry, or a log entry written by itself.
-/
inductive Deed
  | creation (kind : Kind) (key : Int)
  | transition (t : Transition) (entry : LogEntry)
  | note (t : Transition) (entry : LogEntry)
  deriving DecidableEq, Repr

/-- A way in which rows of a live table are changed where they stand. -/
inductive Amendment (kind : Kind)
  | flag (test : Int → LiveRow kind → Bool)
  | unflag (test : Int → LiveRow kind → Bool)
  | revise (content : Int → LiveRow kind → Content kind)

/-- The row under a key after an amendment. -/
def Amendment.apply {kind : Kind} (now : Instant)
    : Amendment kind → Int → LiveRow kind → LiveRow kind
  | flag test, key, row => if test key row then row.flag now else row
  | unflag test, key, row => if test key row then row.unflag else row
  | revise content, key, row => { row with content := content key row }

namespace Amendment

variable {kind : Kind} {now : Instant} {key : Int} {row : LiveRow kind}
  {test : Int → LiveRow kind → Bool}

@[simp]
theorem content_apply_flag : ((flag test).apply now key row).content = row.content := by
  rw [apply]
  split <;> rfl

@[simp]
theorem content_apply_unflag : ((unflag test).apply now key row).content = row.content := by
  rw [apply]
  split <;> rfl

/-- A row that is not flagged is left alone by the clearing of flags. -/
theorem apply_unflag_fresh (content : Content kind)
    : (unflag test).apply now key (LiveRow.fresh content) = LiveRow.fresh content := by
  rw [apply]
  split <;> rfl

end Amendment

/-- A change of a store: a deed, live rows amended, log entries removed, or missing tables created
with an entry in the ledger.
-/
inductive Change
  | create (kind : Kind) (content : Content kind) (key : Int)
  | transition (t : Transition) (entry : LogEntry)
  | note (t : Transition) (entry : LogEntry)
  | amend (kind : Kind) (amendment : Amendment kind)
  | prune (keep : Int → LogRow → Bool)
  | complete (ledger : Option (Table LedgerRow))

/-- The deeds of a change: one or none. -/
def Change.deeds : Change → List Deed
  | create kind _ key => [.creation kind key]
  | transition t entry => [.transition t entry]
  | note t entry => [.note t entry]
  | amend .. | prune _ | complete _ => []

namespace Store

/-- (s.Makes now change after) holds if the change can happen to the store now, and leaves the
store after.
-/
inductive Makes (now : Instant) (s : Store) : Change → Store → Prop
  | create {kind content rows}
    (present : s.tables.live kind = some rows)
    (free : rows.contains (s.sequences.live kind) = false)
    : Makes now s (.create kind content (s.sequences.live kind))
        { s.drawn kind with
          tables := s.tables.setLive kind
            (rows.insert (s.sequences.live kind) (LiveRow.fresh content)) }
  | transition {t tables rows}
    (moves : t.Moves now s.tables tables)
    (present : tables.log = some rows)
    (free : rows.contains s.sequences.log = false)
    : Makes now s (.transition t (t.entry s.sequences.log now))
        { s.numbered with
          tables := tables.setLog
            (rows.insert s.sequences.log (t.entry s.sequences.log now).row) }
  | note {t rows}
    (present : s.tables.log = some rows)
    (free : rows.contains s.sequences.log = false)
    : Makes now s (.note t (t.entry s.sequences.log now))
        { s.numbered with
          tables := s.tables.setLog
            (rows.insert s.sequences.log (t.entry s.sequences.log now).row) }
  | amend {kind rows} {amendment : Amendment kind}
    (present : s.tables.live kind = some rows)
    : Makes now s (.amend kind amendment)
        { s with tables := s.tables.setLive kind (rows.map (amendment.apply now)) }
  | prune {keep rows}
    (present : s.tables.log = some rows)
    : Makes now s (.prune keep) { s with tables := s.tables.setLog (rows.filter keep) }
  | complete {ledger}
    : Makes now s (.complete ledger) { s with tables := { s.tables.complete with ledger } }

/-- A change draws keys and gives none back. -/
theorem Makes.sequences_le {now : Instant} {s after : Store} {change : Change}
    (h : s.Makes now change after)
    : s.sequences ≤ after.sequences := by
  cases h with
  | create => exact s.sequences_le_drawn _
  | transition => exact s.sequences_le_numbered
  | note => exact s.sequences_le_numbered
  | amend | prune | complete => exact le_rfl

/-- (s.Runs now may deeds after) holds if changes that may happen lead from the store s to the
store after with the given deeds, all of them now. Keys may be drawn in vain.
-/
inductive Runs (now : Instant) (may : Store → Change → Prop) : Store → List Deed → Store → Prop
  | stay {s after : Store} (tables : after.tables = s.tables)
    (sequences : s.sequences ≤ after.sequences)
    : Runs now may s [] after
  | change {s after : Store} {c : Change} (allowed : may s c) (made : s.Makes now c after)
    : Runs now may s c.deeds after
  | trans {s middle after : Store} {first second : List Deed}
    (head : Runs now may s first middle) (tail : Runs now may middle second after)
    : Runs now may s (first ++ second) after

namespace Runs

variable {now : Instant} {may : Store → Change → Prop} {s middle after : Store} {deeds : List Deed}

theorem refl (s : Store) : Runs now may s [] s :=
  .stay rfl le_rfl

/-- A run without deeds can be followed by any run. -/
theorem silent_trans (head : Runs now may s [] middle) (tail : Runs now may middle deeds after)
    : Runs now may s deeds after :=
  head.trans tail

/-- A run can be followed by one without deeds. -/
theorem trans_silent (head : Runs now may s deeds middle) (tail : Runs now may middle [] after)
    : Runs now may s deeds after := by
  have h := head.trans tail
  rwa [List.append_nil] at h

/-- What may happen may happen where more may. -/
theorem mono {more : Store → Change → Prop} (h : Runs now may s deeds after)
    (weaker : ∀ t c, may t c → more t c)
    : Runs now more s deeds after := by
  induction h with
  | stay tables sequences => exact .stay tables sequences
  | change allowed made => exact .change (weaker _ _ allowed) made
  | trans _ _ head tail => exact head.trans tail

/-- A run gives no key back, by induction on it. -/
theorem sequences_le (h : Runs now may s deeds after) : s.sequences ≤ after.sequences := by
  induction h with
  | stay _ sequences => exact sequences
  | change _ made => exact made.sequences_le
  | trans _ _ head tail => exact le_trans head tail

/-- A property of the deeds so far and the store holds after a run if it does not depend on keys
drawn in vain and each change that may happen preserves it, by induction on the run.
-/
theorem preserves (holds : List Deed → Store → Prop) (h : Runs now may s deeds after)
    (stay : ∀ past s after, holds past s → after.tables = s.tables → s.sequences ≤ after.sequences →
      holds past after)
    (change : ∀ past s c after, holds past s → may s c → s.Makes now c after →
      holds (past ++ c.deeds) after)
    {past : List Deed} (start : holds past s)
    : holds (past ++ deeds) after := by
  induction h generalizing past with
  | stay tables sequences =>
      rw [List.append_nil]
      exact stay past _ _ start tables sequences
  | change allowed made => exact change past _ _ _ start allowed made
  | trans _ _ head tail =>
      rw [← List.append_assoc]
      exact tail (head start)

/-- The log entries of the deeds of a run are entries of their transitions at the present, by
induction on the run.
-/
theorem stamped (h : Runs now may s deeds after) {t : Transition} {entry : LogEntry}
    (member : .transition t entry ∈ deeds ∨ .note t entry ∈ deeds)
    : ∃ number, entry = t.entry number now := by
  induction h with
  | stay => simp at member
  | change _ made =>
      cases made with
      | create | amend | prune | complete => simp [Change.deeds] at member
      | transition | note =>
          simp only [Change.deeds, List.mem_singleton, Deed.transition.injEq, Deed.note.injEq,
            reduceCtorEq, or_false, false_or] at member
          obtain ⟨rfl, rfl⟩ := member
          exact ⟨_, rfl⟩
  | trans _ _ head tail =>
      simp only [List.mem_append] at member
      rcases member with (member | member) | (member | member)
      · exact head (.inl member)
      · exact tail (.inl member)
      · exact head (.inr member)
      · exact tail (.inr member)

/-- A unit of work is a run if it is one where it yields a value; where it stops it is undone, and
only draws keys.
-/
theorem of_perform {α : Type} {work : Work α} (deedsOf : Except Fault α → List Deed)
    (yields : ∀ value after, s.Yields work value after →
      Runs now may s (deedsOf (.ok value)) after)
    (stops : ∀ fault after, s.Stops work fault after → s.sequences ≤ after.sequences)
    (undone : ∀ fault, deedsOf (.error fault) = [])
    : Runs now may s (deedsOf (s.perform work).1) (s.perform work).2 := by
  rcases s.yields_or_stops work with ⟨value, after, h⟩ | ⟨fault, after, h⟩
  · have done := yields value after h
    simpa only [h.perform_eq] using done
  · have drawn := stops fault after h
    simp only [h.perform_eq, undone]
    exact .stay rfl drawn

end Runs

end Store

end AdoptionRecords
