import AdoptionRecords.Proofs.Store.Moves

/-! Stores as the schema makes them. Every table is there, and no record lacks a value that the
columns of its kind require; so of the contents that move, only that of a user can be refused, for
the role that it names. The log can take entries as long as the numbers that it gives next are free.
-/

namespace AdoptionRecords

open Calendar

-----------------------------------------------------------------------------------------
-- Required values
-----------------------------------------------------------------------------------------

/-- A gap among more columns is one among the first of them or among the last. -/
theorem Shape.gap?_append {first last : Shape} {cells more : List Cell}
    (same : first.length = cells.length)
    : (first ++ last).gap? (cells ++ more) = (first.gap? cells).or (last.gap? more) := by
  rw [gap?, List.zip_append same, List.findSome?_append]
  rfl

namespace Content

/-- A content has every value that the columns of its kind require. -/
def Filled (kind : Kind) (content : Content kind) : Prop :=
  kind.columns.gap? (cells kind content) = none

instance (kind : Kind) (content : Content kind) : Decidable (Filled kind content) :=
  inferInstanceAs (Decidable (_ = none))

theorem length_cells (kind : Kind) (content : Content kind)
    : kind.columns.length = (cells kind content).length := by
  cases kind <;> rfl

/-- A live row lacks no value if its content lacks none: it comes with its flag. -/
theorem Filled.fresh {kind : Kind} {content : Content kind} (h : Filled kind content)
    : (LiveRow.columns kind).gap? (LiveRow.fresh content).cells = none := by
  rw [Filled] at h
  rw [LiveRow.columns, LiveRow.cells, LiveRow.fresh,
    Shape.gap?_append (length_cells kind content), h]
  rfl

/-- An archived row lacks no value if its content lacks none: it comes with its circumstances. -/
theorem Filled.toArchive {kind : Kind} {row : LiveRow kind} (h : Filled kind row.content)
    (actor : Option Int) (reason : String) (now : Instant)
    : (ArchivedRow.columns kind).gap? (row.toArchive actor reason now).cells = none := by
  rw [Filled] at h
  rw [ArchivedRow.columns, ArchivedRow.cells, LiveRow.toArchive,
    Shape.gap?_append (length_cells kind row.content), h]
  rfl

/-- The columns of pets require an owner. -/
theorem Filled.owned {content : PetContent} (h : Filled .pet content)
    : ∃ owner, content.owner = some owner := by
  cases owned : content.owner with
  | some owner => exact ⟨owner, rfl⟩
  | none =>
      simp [Filled, Kind.columns, cells, owned, Shape.gap?, Cell.ofOption, Field.required] at h

end Content

-----------------------------------------------------------------------------------------
-- Migrated tables
-----------------------------------------------------------------------------------------

namespace Tables

/-- The tables are those of the schema: each is there, and no record lacks a value that the columns
of its kind require.
-/
structure Migrated (t : Tables) : Prop where
  live : ∀ kind, ∃ rows, t.live kind = some rows
  archive : ∀ kind, ∃ rows, t.archive kind = some rows
  log : ∃ rows, t.log = some rows
  liveFilled : ∀ kind key row, t.liveRow? kind key = some row → Content.Filled kind row.content
  archiveFilled : ∀ kind key row,
    t.archivedRow? kind key = some row → Content.Filled kind row.content

/-- Whether tables are those of the schema can be told from their entries. -/
theorem migrated_iff {t : Tables}
    : t.Migrated
      ↔ t.log.isSome = true
        ∧ ∀ kind ∈ Kind.declared,
          (t.live kind).isSome = true ∧ (t.archive kind).isSome = true
          ∧ (∀ entry ∈ ((t.live kind).getD .empty).entries, Content.Filled kind entry.2.content)
          ∧ ∀ entry ∈ ((t.archive kind).getD .empty).entries,
            Content.Filled kind entry.2.content := by
  simp only [Prod.forall, mem_liveEntries, mem_archiveEntries, Option.isSome_iff_exists]
  constructor
  · intro h
    exact ⟨h.log, fun kind _ => ⟨h.live kind, h.archive kind, h.liveFilled kind,
      h.archiveFilled kind⟩⟩
  · intro h
    obtain ⟨log, kinds⟩ := h
    have declared (kind : Kind) : kind ∈ Kind.declared := by
      cases kind <;> decide
    exact ⟨fun kind => (kinds kind (declared kind)).1, fun kind => (kinds kind (declared kind)).2.1,
      log, fun kind => (kinds kind (declared kind)).2.2.1,
      fun kind => (kinds kind (declared kind)).2.2.2⟩

instance (t : Tables) : Decidable t.Migrated :=
  decidable_of_iff _ migrated_iff.symm

end Tables

-----------------------------------------------------------------------------------------
-- Free numbers
-----------------------------------------------------------------------------------------

/-- The next numbers of the log, as many as are told, can be drawn and are not taken. -/
def Store.HasFreeNumbers (s : Store) (count : Nat) : Prop :=
  s.sequences.log + count ≤ Work.greatestLogNumber + 1
  ∧ ∀ rows ∈ s.tables.log, ∀ i < count, rows.contains (s.sequences.log + i) = false

instance (s : Store) (count : Nat) : Decidable (s.HasFreeNumbers count) :=
  inferInstanceAs (Decidable (_ ∧ _))

namespace Store.HasFreeNumbers

variable {s : Store} {count : Nat}

theorem mono {fewer : Nat} (h : s.HasFreeNumbers count) (le : fewer ≤ count)
    : s.HasFreeNumbers fewer :=
  ⟨by have := h.1; omega, fun rows present i less => h.2 rows present i (by omega)⟩

/-- If any number is free, the next one can be drawn and is not taken. -/
theorem next (h : s.HasFreeNumbers (count + 1)) {rows : Table LogRow}
    (present : s.tables.log = some rows)
    : s.sequences.log ≤ Work.greatestLogNumber ∧ rows.contains s.sequences.log = false := by
  refine ⟨by have := h.1; omega, ?_⟩
  have first := h.2 rows present 0 (by omega)
  rwa [Int.natCast_zero, Int.add_zero] at first

end Store.HasFreeNumbers

end AdoptionRecords
