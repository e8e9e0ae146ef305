/-! A table: rows under distinct whole-number keys, held in ascending order of their keys.
`find?` is the view of a table; each operation is characterized by what it does to `find?`, and
two tables with the same view are equal.
-/

namespace AdoptionRecords

/-- Rows under strictly ascending keys. -/
structure Table (α : Type) where
  entries : List (Int × α)
  sorted : entries.Pairwise fun a b => a.1 < b.1

namespace Table

variable {α β : Type}

/-- Puts a row under a key into ascending entries, in place of a row already there. -/
def insertEntry (key : Int) (row : α) : List (Int × α) → List (Int × α)
  | [] => [(key, row)]
  | entry :: rest =>
      if key < entry.1 then (key, row) :: entry :: rest
      else if key = entry.1 then (key, row) :: rest
      else entry :: insertEntry key row rest

/-- An inserted entry is the new one or one that was there. -/
theorem mem_insertEntry {key : Int} {row : α} {entry : Int × α} {entries : List (Int × α)}
    (h : entry ∈ insertEntry key row entries)
    : entry = (key, row) ∨ entry ∈ entries := by
  induction entries with
  | nil => grind [insertEntry]
  | cons head rest ih => grind [insertEntry]

/-- Insertion keeps ascending entries ascending, by induction on them. -/
theorem sorted_insertEntry (key : Int) (row : α) {entries : List (Int × α)}
    (h : entries.Pairwise fun a b => a.1 < b.1)
    : (insertEntry key row entries).Pairwise fun a b => a.1 < b.1 := by
  induction entries with
  | nil => simp [insertEntry]
  | cons head rest ih =>
      obtain ⟨below, ascending⟩ := List.pairwise_cons.mp h
      unfold insertEntry
      split
      · rename_i less
        refine List.pairwise_cons.mpr ⟨?_, h⟩
        intro entry member
        rcases List.mem_cons.mp member with rfl | member
        · exact less
        · exact Int.lt_trans less (below entry member)
      · split
        · rename_i same
          exact List.pairwise_cons.mpr ⟨fun entry member => same ▸ below entry member, ascending⟩
        · rename_i notLess notSame
          refine List.pairwise_cons.mpr ⟨?_, ih ascending⟩
          intro entry member
          rcases mem_insertEntry member with rfl | member
          · show head.1 < key
            omega
          · exact below entry member

/-- The table without rows. -/
def empty : Table α :=
  ⟨[], .nil⟩

instance : Inhabited (Table α) :=
  ⟨empty⟩

/-- The row under a key. -/
def find? (t : Table α) (key : Int) : Option α :=
  t.entries.lookup key

/-- Whether there is a row under a key. -/
def contains (t : Table α) (key : Int) : Bool :=
  (t.find? key).isSome

/-- The keys in ascending order. -/
def keys (t : Table α) : List Int :=
  t.entries.map Prod.fst

/-- The number of rows. -/
def size (t : Table α) : Nat :=
  t.entries.length

/-- Puts a row under a key, in place of a row already there. -/
def insert (t : Table α) (key : Int) (row : α) : Table α :=
  ⟨insertEntry key row t.entries, sorted_insertEntry key row t.sorted⟩

/-- Keeps the rows that pass a test. -/
def filter (t : Table α) (keep : Int → α → Bool) : Table α :=
  ⟨t.entries.filter fun entry => keep entry.1 entry.2, t.sorted.filter _⟩

/-- Removes the row under a key. -/
def erase (t : Table α) (key : Int) : Table α :=
  t.filter fun k _ => k ≠ key

/-- Replaces every row, keeping the keys. -/
def map (t : Table α) (change : Int → α → β) : Table β :=
  ⟨t.entries.map fun entry => (entry.1, change entry.1 entry.2),
    List.pairwise_map.mpr t.sorted⟩

/-- The number of rows that pass a test. -/
def count (t : Table α) (test : Int → α → Bool) : Nat :=
  t.entries.countP fun entry => test entry.1 entry.2

/-- No row is found in the empty table. -/
@[simp]
theorem find?_empty (key : Int) : (empty : Table α).find? key = none :=
  rfl

/-- Look-up in entries after an insertion, by induction on the entries. -/
theorem lookup_insertEntry (key other : Int) (row : α) (entries : List (Int × α))
    : (insertEntry key row entries).lookup other =
      if other = key then some row else entries.lookup other := by
  induction entries with
  | nil => grind [insertEntry]
  | cons head rest ih => grind [insertEntry]

/-- After an insertion the new row is found under its key and the others where they were. -/
theorem find?_insert (t : Table α) (key other : Int) (row : α)
    : (t.insert key row).find? other = if other = key then some row else t.find? other :=
  lookup_insertEntry key other row t.entries

/-- A row is found under a key exactly when the table has that entry. -/
theorem find?_eq_some_iff {t : Table α} {key : Int} {row : α}
    : t.find? key = some row ↔ (key, row) ∈ t.entries := by
  obtain ⟨entries, ascending⟩ := t
  show entries.lookup key = some row ↔ (key, row) ∈ entries
  induction entries with
  | nil => simp
  | cons head rest ih =>
      obtain ⟨k, r⟩ := head
      obtain ⟨below, ascending⟩ := List.pairwise_cons.mp ascending
      by_cases h : key = k
      · subst h
        have absent : (key, row) ∉ rest := by
          intro member
          have h := below (key, row) member
          exact Int.lt_irrefl _ h
        simp [absent, eq_comm]
      · have different : (key == k) = false := by simpa using h
        simp [List.lookup_cons, different, h, ih ascending]

/-- A filtered table finds the rows that pass the test. -/
theorem find?_filter (t : Table α) (keep : Int → α → Bool) (key : Int)
    : (t.filter keep).find? key = (t.find? key).filter (keep key) := by
  apply Option.ext
  intro row
  rw [find?_eq_some_iff, Option.filter_eq_some_iff, find?_eq_some_iff]
  simp [filter]

/-- After an erasure nothing is found under the key and the others are where they were. -/
theorem find?_erase (t : Table α) (key other : Int)
    : (t.erase key).find? other = if other = key then none else t.find? other := by
  rw [erase, find?_filter]
  by_cases h : other = key <;> cases t.find? other <;> simp [h, Option.filter]

/-- A changed table finds the changed rows. -/
theorem find?_map (t : Table α) (change : Int → α → β) (key : Int)
    : (t.map change).find? key = (t.find? key).map (change key) := by
  apply Option.ext
  intro row
  simp only [find?_eq_some_iff, Option.map_eq_some_iff, map, List.mem_map, Prod.exists,
    Prod.mk.injEq]
  constructor
  · rintro ⟨k, r, member, rfl, rfl⟩
    exact ⟨r, member, rfl⟩
  · rintro ⟨r, member, rfl⟩
    exact ⟨key, r, member, rfl, rfl⟩

/-- Ascending entries with the same look-ups are equal, by induction on both. -/
theorem entries_eq_of_mem_iff {left right : List (Int × α)}
    (hl : left.Pairwise fun a b => a.1 < b.1) (hr : right.Pairwise fun a b => a.1 < b.1)
    (same : ∀ entry, entry ∈ left ↔ entry ∈ right)
    : left = right := by
  induction left generalizing right with
  | nil =>
      cases right with
      | nil => rfl
      | cons head rest => exact absurd ((same head).mpr (List.mem_cons_self ..)) (by simp)
  | cons a left ih =>
      cases right with
      | nil => exact absurd ((same a).mp (List.mem_cons_self ..)) (by simp)
      | cons b right =>
          obtain ⟨belowLeft, ascendingLeft⟩ := List.pairwise_cons.mp hl
          obtain ⟨belowRight, ascendingRight⟩ := List.pairwise_cons.mp hr
          -- The least entry of either side is an entry of the other, so neither is less.
          have heads : a = b := by
            rcases List.mem_cons.mp ((same a).mp (List.mem_cons_self ..)) with h | ha
            · exact h
            · rcases List.mem_cons.mp ((same b).mpr (List.mem_cons_self ..)) with h | hb
              · exact h.symm
              · have h1 := belowRight a ha
                have h2 := belowLeft b hb
                omega
          subst heads
          congr 1
          apply ih ascendingLeft ascendingRight
          intro entry
          have whole := same entry
          simp only [List.mem_cons] at whole
          constructor
          · intro member
            rcases whole.mp (.inr member) with rfl | found
            · exact absurd (belowLeft _ member) (Int.lt_irrefl _)
            · exact found
          · intro member
            rcases whole.mpr (.inr member) with rfl | found
            · exact absurd (belowRight _ member) (Int.lt_irrefl _)
            · exact found

/-- Tables in which the same rows are found are equal. -/
@[ext]
theorem ext {left right : Table α} (h : ∀ key, left.find? key = right.find? key)
    : left = right := by
  have entries : left.entries = right.entries := by
    apply entries_eq_of_mem_iff left.sorted right.sorted
    intro (key, row)
    rw [← find?_eq_some_iff, ← find?_eq_some_iff, h]
  cases left
  cases right
  simpa using entries

/-- A key is present exactly when some row is found under it. -/
theorem contains_iff {t : Table α} {key : Int}
    : t.contains key = true ↔ ∃ row, t.find? key = some row := by
  simp [contains, Option.isSome_iff_exists]

end Table

end AdoptionRecords
