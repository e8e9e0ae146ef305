import AdoptionRecords.Calendar.Instant
import Mathlib.Data.List.Sort
import Mathlib.Data.Prod.Lex
import Mathlib.Order.MinMax
import Mathlib.Order.WithBot

/-! Orders in which rows are listed. Instants stand in a line. A list that is sorted by ranks
descends strictly if no two of its members have the same rank, and there is only one such list.
-/

namespace AdoptionRecords

-----------------------------------------------------------------------------------------
-- Instants
-----------------------------------------------------------------------------------------

namespace Calendar.Instant

theorem lt_iff {a b : Instant}
    : a < b ↔ a.second < b.second ∨ a.second = b.second ∧ a.nanos < b.nanos :=
  Iff.rfl

theorem ext_parts {a b : Instant} (second : a.second = b.second) (nanos : a.nanos = b.nanos)
    : a = b := by
  cases a
  cases b
  cases second
  cases nanos
  rfl

/-- Instants stand in a line: of two different ones, one is earlier. -/
instance : LinearOrder Instant where
  lt a b := a < b
  le a b := ¬ b < a
  le_refl a := by
    rw [lt_iff]
    omega
  le_trans a b c := by
    simp only [lt_iff]
    omega
  lt_iff_le_not_ge a b := by
    simp only [lt_iff]
    omega
  le_antisymm a b := by
    simp only [lt_iff]
    intro notAfter notBefore
    exact ext_parts (by omega) (by omega)
  le_total a b := by
    simp only [lt_iff]
    omega
  toDecidableLE a b := inferInstanceAs (Decidable (¬ b < a))
  toDecidableEq := inferInstance
  toDecidableLT a b := inferInstanceAs (Decidable (a < b))

instance : Std.LawfulOrderMax Instant := {}

instance : Std.LawfulOrderMin Instant := {}

end Calendar.Instant

-----------------------------------------------------------------------------------------
-- Sorted lists
-----------------------------------------------------------------------------------------

section Sorted

variable {α ρ : Type} [LinearOrder ρ] {left right : List α}

/-- A list of members of different ranks that is sorted by the ranks descends strictly. -/
theorem descending_mergeSort {before : α → α → Bool} (rank : α → ρ)
    (ranked : ∀ a b, before a b = true ↔ rank b ≤ rank a)
    (distinct : left.Pairwise fun a b => rank a ≠ rank b)
    : (left.mergeSort before).Pairwise fun a b => rank b < rank a := by
  have descending : (left.mergeSort before).Pairwise fun a b => before a b = true := by
    apply List.pairwise_mergeSort
    · intro a b c
      rw [ranked, ranked, ranked]
      exact fun first second => second.trans first
    · intro a b
      rw [Bool.or_eq_true, ranked, ranked]
      exact le_total _ _
  have distinct : (left.mergeSort before).Pairwise fun a b => rank a ≠ rank b :=
    ((left.mergeSort_perm before).pairwise_iff fun apart => apart.symm).mpr distinct
  refine descending.imp₂ ?_ distinct
  intro a b sorted apart
  exact lt_of_le_of_ne ((ranked a b).mp sorted) apart.symm

/-- Strictly descending lists with the same members are the same. -/
theorem eq_of_descending (rank : α → ρ) (hl : left.Pairwise fun a b => rank b < rank a)
    (hr : right.Pairwise fun a b => rank b < rank a) (same : ∀ a, a ∈ left ↔ a ∈ right)
    : left = right := by
  have : Std.Asymm fun a b : α => rank b < rank a := ⟨fun _ _ => lt_asymm⟩
  exact hl.eq_of_mem_iff hr same

/-- The first of a list that is sorted otherwise is a member, and stands before all members. -/
theorem first_of_sorted {α : Type} {before : α → α → Prop} {listed sorted : List α} {first : α}
    (same : sorted.Perm listed) (ordered : sorted.Pairwise before) (refl : ∀ a, before a a)
    (found : sorted.head? = some first)
    : first ∈ listed ∧ ∀ other ∈ listed, before first other := by
  obtain ⟨rest, rfl⟩ := List.head?_eq_some_iff.mp found
  refine ⟨same.mem_iff.mp (List.mem_cons_self ..), fun other member => ?_⟩
  rcases List.mem_cons.mp (same.mem_iff.mpr member) with rfl | member
  · exact refl other
  · exact (List.pairwise_cons.mp ordered).1 other member

end Sorted

end AdoptionRecords
