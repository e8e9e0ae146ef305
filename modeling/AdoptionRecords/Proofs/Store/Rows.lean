import AdoptionRecords.Store.Tables

/-! The rows of the store by kind and key. A missing table holds no row, so the rows of a store do
not tell whether its empty tables are there. Each change of a table is characterized by the rows
that are found after it.
-/

namespace AdoptionRecords

/-- An inserted row leaves the rows under other keys alone. -/
theorem Table.find?_insert_of_ne {α : Type} {t : Table α} {key other : Int} (row : α)
    (h : other ≠ key)
    : (t.insert key row).find? other = t.find? other := by
  rw [find?_insert, if_neg h]

/-- An erased row leaves the rows under other keys alone. -/
theorem Table.find?_erase_of_ne {α : Type} {t : Table α} {key other : Int} (h : other ≠ key)
    : (t.erase key).find? other = t.find? other := by
  rw [find?_erase, if_neg h]

namespace Tables

/-- The live row of a kind under a key. -/
def liveRow? (t : Tables) (kind : Kind) (key : Int) : Option (LiveRow kind) :=
  (t.live kind).bind (·.find? key)

/-- The archived row of a kind under a key. -/
def archivedRow? (t : Tables) (kind : Kind) (key : Int) : Option (ArchivedRow kind) :=
  (t.archive kind).bind (·.find? key)

/-- A key is in the live table of a kind. -/
def IsLive (t : Tables) (kind : Kind) (key : Int) : Prop :=
  (t.liveRow? kind key).isSome = true

/-- A key is in the archive table of a kind. -/
def IsArchived (t : Tables) (kind : Kind) (key : Int) : Prop :=
  (t.archivedRow? kind key).isSome = true

instance (t : Tables) (kind : Kind) (key : Int) : Decidable (t.IsLive kind key) :=
  inferInstanceAs (Decidable (_ = true))

instance (t : Tables) (kind : Kind) (key : Int) : Decidable (t.IsArchived kind key) :=
  inferInstanceAs (Decidable (_ = true))

/-- The rows of the log, which has none before the schema is applied. -/
def logRows (t : Tables) : Table LogRow :=
  t.log.getD .empty

variable {t : Tables} {kind other : Kind} {key : Int}

theorem logRows_of_log {rows : Table LogRow} (h : t.log = some rows) : t.logRows = rows := by
  rw [logRows, h]
  rfl

theorem liveRow?_of_live {rows : Table (LiveRow kind)} (h : t.live kind = some rows) (key : Int)
    : t.liveRow? kind key = rows.find? key := by
  simp [liveRow?, h]

theorem archivedRow?_of_archive {rows : Table (ArchivedRow kind)}
    (h : t.archive kind = some rows) (key : Int)
    : t.archivedRow? kind key = rows.find? key := by
  simp [archivedRow?, h]

/-- A record of which a row is found is live, or archived. -/
theorem isLive_of_liveRow {row : LiveRow kind} (h : t.liveRow? kind key = some row)
    : t.IsLive kind key :=
  Option.isSome_iff_exists.mpr ⟨row, h⟩

theorem isArchived_of_archivedRow {row : ArchivedRow kind}
    (h : t.archivedRow? kind key = some row)
    : t.IsArchived kind key :=
  Option.isSome_iff_exists.mpr ⟨row, h⟩

/-- A key is live when its table has it. -/
theorem isLive_iff_contains {rows : Table (LiveRow kind)} (h : t.live kind = some rows)
    : t.IsLive kind key ↔ rows.contains key = true := by
  rw [IsLive, liveRow?_of_live h, Table.contains]

theorem isArchived_iff_contains {rows : Table (ArchivedRow kind)}
    (h : t.archive kind = some rows)
    : t.IsArchived kind key ↔ rows.contains key = true := by
  rw [IsArchived, archivedRow?_of_archive h, Table.contains]

/-- The entries of a live table, of which a missing one has none, are the live rows of its kind. -/
theorem mem_liveEntries {row : LiveRow kind}
    : (key, row) ∈ ((t.live kind).getD .empty).entries ↔ t.liveRow? kind key = some row := by
  cases present : t.live kind with
  | none => simp [liveRow?, present, Table.empty]
  | some rows => simp [liveRow?_of_live present, Table.find?_eq_some_iff]

theorem mem_archiveEntries {row : ArchivedRow kind}
    : (key, row) ∈ ((t.archive kind).getD .empty).entries
      ↔ t.archivedRow? kind key = some row := by
  cases present : t.archive kind with
  | none => simp [archivedRow?, present, Table.empty]
  | some rows => simp [archivedRow?_of_archive present, Table.find?_eq_some_iff]

section Changes

variable (t : Tables) (kind : Kind) (key : Int)

@[simp]
theorem liveRow?_setLive_same (rows : Table (LiveRow kind))
    : (t.setLive kind rows).liveRow? kind key = rows.find? key := by
  simp [liveRow?]

/-- The live rows of other kinds stay as they were. -/
theorem liveRow?_setLive_other (rows : Table (LiveRow kind)) (h : kind ≠ other)
    : (t.setLive kind rows).liveRow? other key = t.liveRow? other key := by
  simp [liveRow?, setLive_live_other t kind rows h]

@[simp]
theorem archivedRow?_setArchive_same (rows : Table (ArchivedRow kind))
    : (t.setArchive kind rows).archivedRow? kind key = rows.find? key := by
  simp [archivedRow?]

theorem archivedRow?_setArchive_other (rows : Table (ArchivedRow kind)) (h : kind ≠ other)
    : (t.setArchive kind rows).archivedRow? other key = t.archivedRow? other key := by
  simp [archivedRow?, setArchive_archive_other t kind rows h]

@[simp]
theorem archivedRow?_setLive (rows : Table (LiveRow kind))
    : (t.setLive kind rows).archivedRow? = t.archivedRow? :=
  rfl

@[simp]
theorem liveRow?_setArchive (rows : Table (ArchivedRow kind))
    : (t.setArchive kind rows).liveRow? = t.liveRow? :=
  rfl

@[simp]
theorem liveRow?_setLog (rows : Table LogRow) : (t.setLog rows).liveRow? = t.liveRow? :=
  rfl

@[simp]
theorem archivedRow?_setLog (rows : Table LogRow)
    : (t.setLog rows).archivedRow? = t.archivedRow? :=
  rfl

/-- Creating the missing tables brings no live row. -/
@[simp]
theorem liveRow?_complete : t.complete.liveRow? kind key = t.liveRow? kind key := by
  cases h : t.live kind <;> simp [liveRow?, complete, h]

@[simp]
theorem archivedRow?_complete : t.complete.archivedRow? kind key = t.archivedRow? kind key := by
  cases h : t.archive kind <;> simp [archivedRow?, complete, h]

end Changes

/-- A change under one key of a live table leaves the live rows of other records alone. -/
theorem liveRow?_setLive_apart {rows changed : Table (LiveRow kind)} {own : Int}
    (present : t.live kind = some rows)
    (elsewhere : ∀ key, key ≠ own → changed.find? key = rows.find? key)
    (apart : ¬ (kind = other ∧ own = key))
    : (t.setLive kind changed).liveRow? other key = t.liveRow? other key := by
  by_cases same : kind = other
  · subst other
    have different : key ≠ own := fun eq => apart ⟨rfl, eq.symm⟩
    rw [liveRow?_setLive_same, elsewhere key different, liveRow?_of_live present]
  · exact liveRow?_setLive_other t kind key changed same

/-- A change under one key of an archive table leaves the archived rows of other records alone. -/
theorem archivedRow?_setArchive_apart {rows changed : Table (ArchivedRow kind)} {own : Int}
    (present : t.archive kind = some rows)
    (elsewhere : ∀ key, key ≠ own → changed.find? key = rows.find? key)
    (apart : ¬ (kind = other ∧ own = key))
    : (t.setArchive kind changed).archivedRow? other key = t.archivedRow? other key := by
  by_cases same : kind = other
  · subst other
    have different : key ≠ own := fun eq => apart ⟨rfl, eq.symm⟩
    rw [archivedRow?_setArchive_same, elsewhere key different, archivedRow?_of_archive present]
  · exact archivedRow?_setArchive_other t kind key changed same

end Tables

end AdoptionRecords
