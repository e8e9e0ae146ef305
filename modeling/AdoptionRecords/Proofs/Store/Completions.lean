import AdoptionRecords.Proofs.Store.Schema

/-! What completed transitions do to a store. A completed transition moves or removes one row and
adds one log entry; from this alone follows what a list of them does, one after another: rows of
other records stay as they are, and records that are archived stay archived.
-/

namespace AdoptionRecords

open Calendar Text

-----------------------------------------------------------------------------------------
-- One transition
-----------------------------------------------------------------------------------------

namespace Transition.Moves

variable {t : Transition} {now : Instant} {before after : Tables}

theorem ledger_eq (h : t.Moves now before after) : after.ledger = before.ledger := by
  cases h <;> rfl

/-- A transition makes no table and drops none. -/
theorem present_eq (h : t.Moves now before after) (id : TableId)
    : (after.keys? id).isSome = (before.keys? id).isSome := by
  have put {F : Kind → Type} {family : (kind : Kind) → Option (F kind)} {kind other : Kind}
      {old new : F kind} (there : family kind = some old)
      : (Tables.replaceAt family kind (some new) other).isSome = (family other).isSome := by
    by_cases same : kind = other
    · subst other
      rw [Tables.replaceAt_same, there]
      rfl
    · rw [Tables.replaceAt_other _ _ same]
  cases id with
  | live kind =>
      simp only [Tables.keys?, Option.isSome_map]
      cases h with
      | archive hl => exact put hl
      | restore hl => exact put hl
      | permanentDelete => rfl
  | archive kind =>
      simp only [Tables.keys?, Option.isSome_map]
      cases h with
      | archive _ ha => exact put ha
      | restore _ ha => exact put ha
      | permanentDelete ha => exact put ha
  | log => simp only [Tables.keys?, h.log_eq]
  | ledger => simp only [Tables.keys?, h.ledger_eq]

end Transition.Moves

/-- (s.Completed now t after) holds if the transition t, made now, has led from s to after. Its own
row was moved with the content that it had, or was removed; the rows of other records, the ledger
and all keys but the number of the log are as they were; and the log has one row more, under the
number that it gave next, which tells what was asked for and when.
-/
structure Store.Completed (s : Store) (now : Instant) (t : Transition) (after : Store) : Prop where
  own :
    match t.operation with
    | .archive => ∃ row,
        s.tables.liveRow? t.kind t.key = some row ∧ ¬ s.tables.IsArchived t.kind t.key
        ∧ after.tables.liveRow? t.kind t.key = none
        ∧ after.tables.archivedRow? t.kind t.key = some (row.toArchive t.actor t.reason now)
    | .restore => ∃ row,
        s.tables.archivedRow? t.kind t.key = some row ∧ ¬ s.tables.IsLive t.kind t.key
        ∧ after.tables.archivedRow? t.kind t.key = none
        ∧ after.tables.liveRow? t.kind t.key = some (LiveRow.fresh row.content)
    | .permanentDelete =>
        s.tables.IsArchived t.kind t.key
        ∧ after.tables.archivedRow? t.kind t.key = none
        ∧ after.tables.liveRow? t.kind t.key = s.tables.liveRow? t.kind t.key
  others : ∀ kind key, ¬ (t.kind = kind ∧ t.key = key) →
    after.tables.liveRow? kind key = s.tables.liveRow? kind key
    ∧ after.tables.archivedRow? kind key = s.tables.archivedRow? kind key
  logged : ∃ rows,
    s.tables.log = some rows ∧ rows.contains s.sequences.log = false
    ∧ after.tables.log
      = some (rows.insert s.sequences.log
        { table := some t.kind.liveTable
          record := some t.key
          operationName := some t.operation.name
          performedBy := t.actor
          performedAt := some now
          reason := some t.reason })
  ledger : after.tables.ledger = s.tables.ledger
  present : ∀ id, (after.tables.keys? id).isSome = (s.tables.keys? id).isSome
  sequences : after.sequences = { s.sequences with log := s.sequences.log + 1 }

namespace Store.Completed

variable {s after : Store} {now : Instant} {t : Transition} {kind : Kind} {key : Int}

/-- A transition that moves the tables and then writes its log entry is completed. -/
theorem of_moves {moved : Tables} {rows : Table LogRow} (moves : t.Moves now s.tables moved)
    (present : moved.log = some rows) (free : rows.contains s.sequences.log = false)
    : s.Completed now t { s.numbered with
        tables := moved.setLog (rows.insert s.sequences.log (t.entry s.sequences.log now).row) } := by
  refine ⟨?_, ?_, ?_, moves.ledger_eq, ?_, rfl⟩
  · have rows := moves.rows_of_own
    have places := moves.places
    cases operation : t.operation with
    | archive =>
        simp only [operation] at rows places
        obtain ⟨row, found, gone, archived⟩ := rows
        exact ⟨row, found, places.2.1, gone, archived⟩
    | restore =>
        simp only [operation] at rows places
        obtain ⟨row, found, gone, back⟩ := rows
        exact ⟨row, found, places.1, gone, back⟩
    | permanentDelete =>
        simp only [operation] at rows places
        obtain ⟨row, found, gone, live⟩ := rows
        exact ⟨places.1, gone, live⟩
  · intro kind key other
    exact moves.rows_of_other other
  · exact ⟨rows, moves.log_eq.symm.trans present, free, rfl⟩
  · intro id
    refine Eq.trans ?_ (moves.present_eq id)
    cases id with
    | log =>
        rw [Tables.keys?, Tables.keys?, present]
        rfl
    | live | archive | ledger => rfl

/-- A transition that is carried out is completed. -/
theorem of_yields {entry : LogEntry} (h : s.Yields (t.carryOut now) entry after)
    : s.Completed now t after ∧ entry = t.entry s.sequences.log now := by
  obtain ⟨moved, moves, recorded⟩ := yields_carryOut_iff.mp h
  obtain ⟨rows, present, -, -, free, rfl, rfl⟩ := yields_record_iff.mp recorded
  exact ⟨.of_moves moves present free, rfl⟩

/-- A record that was archived was live and not archived, and is the other way round afterwards. -/
theorem archived (h : s.Completed now t after) (archives : t.operation = .archive)
    : ∃ row,
        s.tables.liveRow? t.kind t.key = some row ∧ ¬ s.tables.IsArchived t.kind t.key
        ∧ after.tables.liveRow? t.kind t.key = none
        ∧ after.tables.archivedRow? t.kind t.key
          = some (row.toArchive t.actor t.reason now) := by
  have own := h.own
  simpa only [archives] using own

/-- A row that is live after a completed transition was so before, or has come back. -/
theorem liveRow_before (h : s.Completed now t after) {row : LiveRow kind}
    (found : after.tables.liveRow? kind key = some row)
    : s.tables.liveRow? kind key = some row
      ∨ ∃ old, s.tables.archivedRow? kind key = some old ∧ row = LiveRow.fresh old.content := by
  by_cases own : t.kind = kind ∧ t.key = key
  · obtain ⟨rfl, rfl⟩ := own
    have rows := h.own
    cases operation : t.operation with
    | archive =>
        simp only [operation] at rows
        obtain ⟨_, -, -, gone, -⟩ := rows
        cases gone.symm.trans found
    | restore =>
        simp only [operation] at rows
        obtain ⟨old, was, -, -, back⟩ := rows
        exact .inr ⟨old, was, (Option.some.inj (back.symm.trans found)).symm⟩
    | permanentDelete =>
        simp only [operation] at rows
        obtain ⟨-, -, same⟩ := rows
        exact .inl (same.symm.trans found)
  · exact .inl ((h.others kind key own).1.symm.trans found)

/-- A row that is archived after a completed transition was so before, or was archived by it. -/
theorem archivedRow_before (h : s.Completed now t after) {row : ArchivedRow kind}
    (found : after.tables.archivedRow? kind key = some row)
    : s.tables.archivedRow? kind key = some row
      ∨ ∃ old, s.tables.liveRow? kind key = some old
          ∧ row = old.toArchive t.actor t.reason now := by
  by_cases own : t.kind = kind ∧ t.key = key
  · obtain ⟨rfl, rfl⟩ := own
    have rows := h.own
    cases operation : t.operation with
    | archive =>
        simp only [operation] at rows
        obtain ⟨old, was, -, -, moved⟩ := rows
        exact .inr ⟨old, was, (Option.some.inj (moved.symm.trans found)).symm⟩
    | restore =>
        simp only [operation] at rows
        obtain ⟨_, -, -, gone, -⟩ := rows
        cases gone.symm.trans found
    | permanentDelete =>
        simp only [operation] at rows
        obtain ⟨-, gone, -⟩ := rows
        cases gone.symm.trans found
  · exact .inl ((h.others kind key own).2.symm.trans found)

/-- A completed transition leaves tables as the schema makes them. -/
theorem migrated (h : s.Completed now t after) (held : s.tables.Migrated)
    : after.tables.Migrated := by
  have present (id : TableId) (there : (s.tables.keys? id).isSome = true)
      : (after.tables.keys? id).isSome = true := (h.present id).trans there
  refine ⟨?_, ?_, ?_, ?_, ?_⟩
  · intro kind
    obtain ⟨rows, found⟩ := held.live kind
    have there := present (.live kind) (by simp [Tables.keys?, found])
    rwa [Tables.keys?, Option.isSome_map, Option.isSome_iff_exists] at there
  · intro kind
    obtain ⟨rows, found⟩ := held.archive kind
    have there := present (.archive kind) (by simp [Tables.keys?, found])
    rwa [Tables.keys?, Option.isSome_map, Option.isSome_iff_exists] at there
  · obtain ⟨rows, -, -, found⟩ := h.logged
    exact ⟨_, found⟩
  · intro kind key row found
    rcases h.liveRow_before found with was | ⟨old, was, rfl⟩
    · exact held.liveFilled kind key row was
    · exact held.archiveFilled kind key old was
  · intro kind key row found
    rcases h.archivedRow_before found with was | ⟨old, was, rfl⟩
    · exact held.archiveFilled kind key row was
    · exact held.liveFilled kind key old was

/-- A completed transition takes one of the free numbers, the first. -/
theorem hasFreeNumbers (h : s.Completed now t after) {count : Nat}
    (free : s.HasFreeNumbers (count + 1))
    : after.HasFreeNumbers count := by
  obtain ⟨rows, present, -, added⟩ := h.logged
  have log : after.sequences.log = s.sequences.log + 1 := by
    rw [h.sequences]
  refine ⟨?_, ?_⟩
  · have := free.1
    omega
  · intro found there i less
    rw [added] at there
    cases there
    have unused := free.2 rows present (i + 1) (by omega)
    have later : after.sequences.log + i = s.sequences.log + (i + 1 : Nat) := by
      omega
    rwa [Table.contains, later, Table.find?_insert_of_ne _ (by omega)]

end Store.Completed

-----------------------------------------------------------------------------------------
-- Transitions one after another
-----------------------------------------------------------------------------------------

/-- (s.CompletedAll now ts after) holds if the transitions of ts, each made now, were completed one
after another and have led from s to after.
-/
inductive Store.CompletedAll (now : Instant) : Store → List Transition → Store → Prop
  | nil {s} : CompletedAll now s [] s
  | cons {s middle after t rest}
    (head : s.Completed now t middle)
    (tail : CompletedAll now middle rest after)
    : CompletedAll now s (t :: rest) after

namespace Store.CompletedAll

variable {s middle after : Store} {now : Instant} {ts : List Transition} {kind : Kind} {key : Int}

/-- Completed transitions go on with further ones, by induction on the first. -/
theorem append {more : List Transition} (first : s.CompletedAll now ts middle)
    (second : middle.CompletedAll now more after)
    : s.CompletedAll now (ts ++ more) after := by
  induction first with
  | nil => exact second
  | cons head _ ih => exact .cons head (ih second)

theorem migrated (h : s.CompletedAll now ts after) (held : s.tables.Migrated)
    : after.tables.Migrated := by
  induction h with
  | nil => exact held
  | cons head _ ih => exact ih (head.migrated held)

theorem ledger (h : s.CompletedAll now ts after) : after.tables.ledger = s.tables.ledger := by
  induction h with
  | nil => rfl
  | cons head _ ih => rw [ih, head.ledger]

/-- Completed transitions leave the free numbers that they did not take, by induction on them. -/
theorem hasFreeNumbers (h : s.CompletedAll now ts after) {count : Nat}
    (free : s.HasFreeNumbers (ts.length + count))
    : after.HasFreeNumbers count := by
  induction h with
  | nil => rwa [List.length_nil, Nat.zero_add] at free
  | cons head _ ih =>
      refine ih (head.hasFreeNumbers ?_)
      rwa [List.length_cons, Nat.add_right_comm] at free

/-- Rows that none of the transitions is about stay as they are, by induction on these. -/
theorem others (h : s.CompletedAll now ts after)
    (apart : ∀ t ∈ ts, ¬ (t.kind = kind ∧ t.key = key))
    : after.tables.liveRow? kind key = s.tables.liveRow? kind key
      ∧ after.tables.archivedRow? kind key = s.tables.archivedRow? kind key := by
  induction h with
  | nil => exact ⟨rfl, rfl⟩
  | cons head _ ih =>
      obtain ⟨own, rest⟩ := List.forall_mem_cons.mp apart
      obtain ⟨live, archived⟩ := ih rest
      obtain ⟨live', archived'⟩ := head.others kind key own
      exact ⟨live.trans live', archived.trans archived'⟩

/-- Each of the records that were archived one after another was live and not archived, and ends the
other way round; by induction on the transitions, of which no two can be about one record.
-/
theorem archived (h : s.CompletedAll now ts after) (archives : ∀ t ∈ ts, t.operation = .archive)
    : ∀ t ∈ ts, ∃ row,
        s.tables.liveRow? t.kind t.key = some row ∧ ¬ s.tables.IsArchived t.kind t.key
        ∧ after.tables.liveRow? t.kind t.key = none
        ∧ after.tables.archivedRow? t.kind t.key
          = some (row.toArchive t.actor t.reason now) := by
  induction h with
  | nil => simp
  | @cons s middle after t rest head tail ih =>
      obtain ⟨archives, later⟩ := List.forall_mem_cons.mp archives
      obtain ⟨row, found, free, gone, moved⟩ := head.archived archives
      have ih := ih later
      -- The first record is not live any more, so none of the later transitions is about it.
      have apart : ∀ other ∈ rest, ¬ (other.kind = t.kind ∧ other.key = t.key) := by
        intro other member same
        obtain ⟨_, found, -⟩ := ih other member
        have live : middle.tables.IsLive other.kind other.key := Tables.isLive_of_liveRow found
        rw [same.1, same.2, Tables.IsLive, gone] at live
        cases live
      refine List.forall_mem_cons.mpr ⟨⟨row, found, free, ?_⟩, ?_⟩
      · obtain ⟨live, archived⟩ := tail.others apart
        exact ⟨live.trans gone, archived.trans moved⟩
      · intro other member
        obtain ⟨row, found, free, rows⟩ := ih other member
        have unlike : ¬ (t.kind = other.kind ∧ t.key = other.key) :=
          fun same => apart other member ⟨same.1.symm, same.2.symm⟩
        obtain ⟨live, archived⟩ := head.others other.kind other.key unlike
        rw [live] at found
        rw [Tables.IsArchived, archived] at free
        exact ⟨row, found, free, rows⟩

end Store.CompletedAll

end AdoptionRecords
