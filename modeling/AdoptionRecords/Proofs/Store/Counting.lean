import AdoptionRecords.Transition
import AdoptionRecords.Proofs.Store.Rows
import Mathlib.Data.Set.Card

/-! Counting rows. A table counts rows one by one; what is counted is the set of the keys under which
they are found, since no two rows are under one key.
-/

namespace AdoptionRecords

/-- The keys of the rows of a table ascend. -/
theorem Table.ascending_keys {α : Type} (t : Table α) : t.keys.Pairwise (· < ·) :=
  List.pairwise_map.mpr t.sorted

/-- The number of ascending keys is that of the set of them. -/
theorem ncard_of_ascending {keys : List Int} (ascending : keys.Pairwise (· < ·))
    : Set.ncard { key | key ∈ keys } = keys.length := by
  have nodup : keys.Nodup := ascending.imp fun below => Int.ne_of_lt below
  have same : { key | key ∈ keys } = (keys.toFinset : Set Int) := by
    ext key
    simp
  rw [same, Set.ncard_coe_finset, List.toFinset_card_of_nodup nodup]

/-- Ascending keys are as many as there are in the set that they list. -/
theorem length_of_ascending {keys : List Int} (ascending : keys.Pairwise (· < ·)) {listed : Set Int}
    (mem : ∀ key, key ∈ keys ↔ key ∈ listed)
    : keys.length = listed.ncard := by
  have same : { key | key ∈ keys } = listed := Set.ext mem
  rw [← same, ncard_of_ascending ascending]

/-- The number of rows that pass a test is the number of keys under which such a row is found, since
no two rows are under one key.
-/
theorem Table.count_eq_ncard {α : Type} (t : Table α) (test : Int → α → Bool)
    : t.count test = Set.ncard { key | ∃ row, t.find? key = some row ∧ test key row = true } := by
  let passing := t.entries.filter fun entry => test entry.1 entry.2
  have ascending : (passing.map Prod.fst).Pairwise (· < ·) :=
    List.pairwise_map.mpr (t.sorted.filter _)
  have keys : { key | ∃ row, t.find? key = some row ∧ test key row = true }
      = { key | key ∈ passing.map Prod.fst } := by
    ext key
    simp [passing, Table.find?_eq_some_iff]
  rw [keys, ncard_of_ascending ascending, List.length_map, Table.count,
    List.countP_eq_length_filter]

namespace Tables

/-- The live records of a kind are those of which its table has the keys. -/
theorem live_eq_keys (t : Tables) (kind : Kind)
    : { key | t.IsLive kind key } = { key | key ∈ ((t.live kind).getD .empty).keys } := by
  ext key
  simp only [Set.mem_ofPred_eq, IsLive, Option.isSome_iff_exists, ← mem_liveEntries, Table.keys,
    List.mem_map, Prod.exists, exists_and_right, exists_eq_right]

theorem finite_live (t : Tables) (kind : Kind) : { key | t.IsLive kind key }.Finite := by
  rw [live_eq_keys]
  exact List.finite_toSet _

theorem ncard_live (t : Tables) (kind : Kind)
    : { key | t.IsLive kind key }.ncard = ((t.live kind).getD .empty).size := by
  rw [live_eq_keys, ncard_of_ascending (Table.ascending_keys _), Table.keys, List.length_map]
  rfl

/-- The live pets of an owner that are not flagged. -/
def unflaggedPets (t : Tables) (owner : Int) : Set Int :=
  { pet | ∃ row, t.liveRow? .pet pet = some row ∧ row.content.owner = some owner
    ∧ row.archived = some false }

/-- The pets that hold an owner back are those that are live and not flagged. -/
theorem activePets_eq {t : Tables} {pets : Table (LiveRow .pet)} (present : t.live .pet = some pets)
    (owner : Int)
    : activePets pets owner = (t.unflaggedPets owner).ncard := by
  rw [activePets, Table.count_eq_ncard, unflaggedPets]
  simp only [liveRow?_of_live present, Bool.and_eq_true, beq_iff_eq]

end Tables

end AdoptionRecords
