import AdoptionRecords.Proofs.History.Announcements
import AdoptionRecords.Proofs.Store.Counting
import AdoptionRecords.Proofs.Store.Schema

/-! What is due for archiving. The rows of a store tell which requests and pets are past their
retention; the selections of the policy find exactly these, in the order of their keys, unless the
store refuses the cutoff. The reasons that the policy gives can always be stored.
-/

namespace AdoptionRecords

open Calendar Text

-----------------------------------------------------------------------------------------
-- Reasons
-----------------------------------------------------------------------------------------

theorem Text.hasNul_append (left right : String)
    : hasNul (left ++ right) = (hasNul left || hasNul right) := by
  simp [hasNul]

/-- The decimal notation of a number does not hold the character NUL, which is no digit. -/
theorem Text.hasNul_repr_nat (n : Nat) : hasNul n.repr = false := by
  rw [hasNul, Nat.toList_repr, ← Bool.not_eq_true, List.contains_iff_mem]
  intro member
  have digit := Nat.isDigit_of_mem_toDigits (by decide) (by decide) member
  exact absurd digit (by decide)

theorem Text.hasNul_toString_int (n : Int) : hasNul (toString n) = false := by
  cases n with
  | ofNat m => exact hasNul_repr_nat m
  | negSucc m =>
      show hasNul ("-" ++ (m + 1).repr) = false
      rw [hasNul_append, hasNul_repr_nat]
      decide

/-- A text around a number does not hold NUL if what stands before and after the number does not. -/
theorem Text.hasNul_around_int {first last : String} (n : Int) (before : hasNul first = false)
    (after : hasNul last = false)
    : hasNul (first ++ toString n ++ last) = false := by
  rw [hasNul_append, hasNul_append, hasNul_toString_int, before, after]
  rfl

namespace Retention

/-- The reason for which requests are archived can be stored, however many days it tells of. -/
theorem Policy.hasNul_requestReason (p : Policy) : hasNul p.requestReason = false :=
  hasNul_around_int p.requestDays (by decide +kernel) (by decide +kernel)

theorem Policy.hasNul_petReason (p : Policy) : hasNul p.petReason = false :=
  hasNul_around_int p.adoptedPetDays (by decide +kernel) (by decide +kernel)

-----------------------------------------------------------------------------------------
-- Records that are due
-----------------------------------------------------------------------------------------

/-- A request is due if it is completed and the approval date that it may have lies before the cutoff.
No date lies before a cutoff that is none.
-/
def RequestDue (cutoff : Option Date) (c : AdoptionRequestContent) : Prop :=
  (c.status = some "Approved" ∨ c.status = some "Rejected")
  ∧ ∀ date, c.approved = some date → ∃ limit, cutoff = some limit ∧ date < limit

/-- A pet is due if it is adopted and a live adoption of it is dated before the cutoff. -/
def PetDue (cutoff : Option Date) (t : Tables) (pet : Int) (c : PetContent) : Prop :=
  c.adoptionStatus = some "Adopted"
  ∧ ∃ adoption row date limit,
      t.liveRow? .adoption adoption = some row ∧ row.content.pet = some pet
      ∧ row.content.adopted = some date ∧ cutoff = some limit ∧ date < limit

theorem isBefore_iff {date : Date} {cutoff : Option Date}
    : isBefore date cutoff = true ↔ ∃ limit, cutoff = some limit ∧ date < limit := by
  cases cutoff <;> simp [isBefore]

theorem requestIsDue_iff {cutoff : Option Date} {c : AdoptionRequestContent}
    : requestIsDue cutoff c = true ↔ RequestDue cutoff c := by
  have completed : c.status.any completedStatuses.contains = true
      ↔ c.status = some "Approved" ∨ c.status = some "Rejected" := by
    cases c.status <;> simp [completedStatuses]
  rw [requestIsDue, RequestDue, Bool.and_eq_true, completed]
  cases c.approved with
  | none => simp
  | some date => simp [isBefore_iff]

theorem petIsDue_iff {cutoff : Option Date} {t : Tables} {adoptions : Table (LiveRow .adoption)}
    (present : t.live .adoption = some adoptions) {pet : Int} {c : PetContent}
    : petIsDue cutoff adoptions pet c = true ↔ PetDue cutoff t pet c := by
  have dated (row : LiveRow .adoption)
      : row.content.adopted.any (isBefore · cutoff) = true
        ↔ ∃ date limit, row.content.adopted = some date ∧ cutoff = some limit ∧ date < limit := by
    cases row.content.adopted <;> simp [isBefore_iff]
  rw [petIsDue, PetDue, Bool.and_eq_true, beq_iff_eq, decide_eq_true_eq, Table.count,
    List.countP_pos_iff, adoptedStatus]
  simp only [Prod.exists, Bool.and_eq_true, beq_iff_eq, dated, ← Table.find?_eq_some_iff,
    ← Tables.liveRow?_of_live present]
  constructor
  · rintro ⟨adopted, adoption, row, found, own, date, limit, on, cutoff, before⟩
    exact ⟨adopted, adoption, row, date, limit, found, own, on, cutoff, before⟩
  · rintro ⟨adopted, adoption, row, date, limit, found, own, on, cutoff, before⟩
    exact ⟨adopted, adoption, row, found, own, date, limit, on, cutoff, before⟩

end Retention

namespace Tables

/-- The live requests that are due. -/
def dueRequests (t : Tables) (cutoff : Option Date) : Set Int :=
  { key | ∃ row, t.liveRow? .adoptionRequest key = some row
    ∧ Retention.RequestDue cutoff row.content }

/-- The live pets that are due. -/
def duePets (t : Tables) (cutoff : Option Date) : Set Int :=
  { key | ∃ row, t.liveRow? .pet key = some row ∧ Retention.PetDue cutoff t key row.content }

section Later

variable {t later : Tables} {cutoff : Option Date}

/-- Which pets are due can be told from the live pets and adoptions. -/
theorem duePets_congr (pets : ∀ key, later.liveRow? .pet key = t.liveRow? .pet key)
    (adoptions : ∀ key, later.liveRow? .adoption key = t.liveRow? .adoption key)
    : later.duePets cutoff = t.duePets cutoff := by
  simp only [duePets, Retention.PetDue, pets, adoptions]

/-- Once the requests that were due are gone, and the others are as they were, none is due. -/
theorem dueRequests_eq_empty
    (gone : ∀ key ∈ t.dueRequests cutoff, later.liveRow? .adoptionRequest key = none)
    (kept : ∀ key ∉ t.dueRequests cutoff,
      later.liveRow? .adoptionRequest key = t.liveRow? .adoptionRequest key)
    : later.dueRequests cutoff = ∅ := by
  refine Set.eq_empty_iff_forall_notMem.mpr ?_
  rintro key ⟨row, found, due⟩
  by_cases before : key ∈ t.dueRequests cutoff
  · cases (gone key before).symm.trans found
  · exact before ⟨row, (kept key before).symm.trans found, due⟩

/-- Once the pets that were due are gone, and the others and all adoptions are as they were, none is
due.
-/
theorem duePets_eq_empty (gone : ∀ key ∈ t.duePets cutoff, later.liveRow? .pet key = none)
    (kept : ∀ key ∉ t.duePets cutoff, later.liveRow? .pet key = t.liveRow? .pet key)
    (adoptions : ∀ key, later.liveRow? .adoption key = t.liveRow? .adoption key)
    : later.duePets cutoff = ∅ := by
  refine Set.eq_empty_iff_forall_notMem.mpr ?_
  rintro key ⟨row, found, due⟩
  simp only [Retention.PetDue, adoptions] at due
  by_cases before : key ∈ t.duePets cutoff
  · cases (gone key before).symm.trans found
  · exact before ⟨row, (kept key before).symm.trans found, due⟩

end Later

end Tables

-----------------------------------------------------------------------------------------
-- Selections
-----------------------------------------------------------------------------------------

/-- The keys of a filtered table are those under which a row is found that passes the test. -/
theorem Table.mem_keys_filter {α : Type} {t : Table α} {test : Int → α → Bool} {key : Int}
    : key ∈ (t.filter test).keys ↔ ∃ row, t.find? key = some row ∧ test key row = true := by
  simp [keys, filter, find?_eq_some_iff]

/-- The store accepts a cutoff if there is none, or if it can hold it. -/
def Retention.Accepts (cutoff : Option Date) : Prop :=
  cutoff.toList.all Date.isStorable = true

instance (cutoff : Option Date) : Decidable (Retention.Accepts cutoff) :=
  inferInstanceAs (Decidable (_ = true))

namespace Store

open Retention

variable {s after : Store} {p : Policy} {today : Date} {keys : List Int}

/-- The requests that are due are selected, in ascending order, if the store accepts the cutoff. -/
theorem yields_dueRequests_iff
    : s.Yields (dueRequests p today) keys after
      ↔ ∃ requests,
          s.tables.live .adoptionRequest = some requests ∧ Accepts (p.requestCutoff today)
          ∧ keys = (requests.filter fun _ row =>
              requestIsDue (p.requestCutoff today) row.content).keys
          ∧ after = s := by
  simp only [dueRequests, yields_bind_iff, yields_liveTable_iff, yields_checkDates_iff,
    yields_pure_iff]
  constructor
  · rintro ⟨requests, _, ⟨present, rfl⟩, _, _, ⟨accepted, rfl⟩, rfl, rfl⟩
    exact ⟨requests, present, accepted, rfl, rfl⟩
  · rintro ⟨requests, present, accepted, rfl, rfl⟩
    exact ⟨requests, _, ⟨present, rfl⟩, (), _, ⟨accepted, rfl⟩, rfl, rfl⟩

theorem yields_duePets_iff
    : s.Yields (duePets p today) keys after
      ↔ ∃ pets adoptions,
          s.tables.live .pet = some pets ∧ s.tables.live .adoption = some adoptions
          ∧ Accepts (p.adoptedPetCutoff today)
          ∧ keys = (pets.filter fun pet row =>
              petIsDue (p.adoptedPetCutoff today) adoptions pet row.content).keys
          ∧ after = s := by
  simp only [duePets, yields_bind_iff, yields_liveTable_iff, yields_checkDates_iff,
    yields_pure_iff]
  constructor
  · rintro ⟨pets, _, ⟨petsPresent, rfl⟩, adoptions, _, ⟨adoptionsPresent, rfl⟩, _, _,
      ⟨accepted, rfl⟩, rfl, rfl⟩
    exact ⟨pets, adoptions, petsPresent, adoptionsPresent, accepted, rfl, rfl⟩
  · rintro ⟨pets, adoptions, petsPresent, adoptionsPresent, accepted, rfl, rfl⟩
    exact ⟨pets, _, ⟨petsPresent, rfl⟩, adoptions, _, ⟨adoptionsPresent, rfl⟩, (), _,
      ⟨accepted, rfl⟩, rfl, rfl⟩

end Store

namespace Database

open Retention

variable {d : Database} {p : Policy} {today : Date} {keys : List Int}

/-- A look at a database that can be reached answers what the work yields on its store. -/
theorem ask_of_yields {α : Type} {work : Work α} {value : α} {after : Store}
    (reachable : d.reachable = true) (h : d.store.Yields work value after)
    : d.ask work = .ok value := by
  rw [ask, if_pos reachable]
  exact h.ask_eq

/-- A database that answers a look can be reached. -/
theorem reachable_of_ask {α : Type} {work : Work α} {value : α} (h : d.ask work = .ok value)
    : d.reachable = true := by
  by_contra unreachable
  rw [ask, if_neg unreachable] at h
  cases h

/-- The selection of requests finds those that are due. -/
theorem mem_of_ask_dueRequests (h : d.ask (dueRequests p today) = .ok keys) (key : Int)
    : key ∈ keys ↔ key ∈ d.store.tables.dueRequests (p.requestCutoff today) := by
  obtain ⟨after, yields⟩ := yields_of_ask h
  obtain ⟨requests, present, -, rfl, -⟩ := Store.yields_dueRequests_iff.mp yields
  simp only [Table.mem_keys_filter, requestIsDue_iff, Tables.dueRequests,
    Tables.liveRow?_of_live present, Set.mem_ofPred_eq]

/-- The selection of pets finds those that are due. -/
theorem mem_of_ask_duePets (h : d.ask (duePets p today) = .ok keys) (key : Int)
    : key ∈ keys ↔ key ∈ d.store.tables.duePets (p.adoptedPetCutoff today) := by
  obtain ⟨after, yields⟩ := yields_of_ask h
  obtain ⟨pets, adoptions, petsPresent, adoptionsPresent, -, rfl, -⟩ :=
    Store.yields_duePets_iff.mp yields
  simp only [Table.mem_keys_filter, petIsDue_iff adoptionsPresent, Tables.duePets,
    Tables.liveRow?_of_live petsPresent, Set.mem_ofPred_eq]

/-- A selection of requests answers on tables of the schema if the store accepts the cutoff. -/
theorem exists_ask_dueRequests (reachable : d.reachable = true)
    (migrated : d.store.tables.Migrated) (accepted : Accepts (p.requestCutoff today))
    : ∃ keys, d.ask (dueRequests p today) = .ok keys := by
  obtain ⟨requests, present⟩ := migrated.live .adoptionRequest
  have yields := Store.yields_dueRequests_iff.mpr ⟨requests, present, accepted, rfl, rfl⟩
  exact ⟨_, ask_of_yields reachable yields⟩

theorem exists_ask_duePets (reachable : d.reachable = true)
    (migrated : d.store.tables.Migrated) (accepted : Accepts (p.adoptedPetCutoff today))
    : ∃ keys, d.ask (duePets p today) = .ok keys := by
  obtain ⟨pets, petsPresent⟩ := migrated.live .pet
  obtain ⟨adoptions, adoptionsPresent⟩ := migrated.live .adoption
  have yields := Store.yields_duePets_iff.mpr
    ⟨pets, adoptions, petsPresent, adoptionsPresent, accepted, rfl, rfl⟩
  exact ⟨_, ask_of_yields reachable yields⟩

end Database

-----------------------------------------------------------------------------------------
-- Parts of the policy
-----------------------------------------------------------------------------------------

namespace Retention

/-- A part of the policy, which archives the records of one kind that are due. Its selection answers
with exactly these, in the order of their keys, if the store accepts the cutoff.
-/
structure Part where
  kind : Kind
  reason : Policy → String
  cutoff : Policy → Date → Option Date
  select : Policy → Date → Work (List Int)
  due : Tables → Option Date → Set Int
  unguarded : kind ≠ .petOwner
  storable : ∀ p, hasNul (reason p) = false
  live : ∀ {t limit key}, key ∈ due t limit → t.IsLive kind key
  ascending : ∀ {d : Database} {p today keys},
    d.ask (select p today) = .ok keys → keys.Pairwise (· < ·)
  mem_of_ask : ∀ {d : Database} {p today keys},
    d.ask (select p today) = .ok keys →
    ∀ key, key ∈ keys ↔ key ∈ due d.store.tables (cutoff p today)
  exists_ask : ∀ {d : Database} {p today},
    d.reachable = true → d.store.tables.Migrated → Accepts (cutoff p today) →
    ∃ keys, d.ask (select p today) = .ok keys

/-- The part of the policy that archives requests. -/
def Part.requests : Part where
  kind := .adoptionRequest
  reason := Policy.requestReason
  cutoff := Policy.requestCutoff
  select := dueRequests
  due := Tables.dueRequests
  unguarded := nofun
  storable := Policy.hasNul_requestReason
  live := fun ⟨_, found, _⟩ => Tables.isLive_of_liveRow found
  ascending := ascending_dueRequests
  mem_of_ask := Database.mem_of_ask_dueRequests
  exists_ask := Database.exists_ask_dueRequests

/-- The part of the policy that archives pets. -/
def Part.pets : Part where
  kind := .pet
  reason := Policy.petReason
  cutoff := Policy.adoptedPetCutoff
  select := duePets
  due := Tables.duePets
  unguarded := nofun
  storable := Policy.hasNul_petReason
  live := fun ⟨_, found, _⟩ => Tables.isLive_of_liveRow found
  ascending := ascending_duePets
  mem_of_ask := Database.mem_of_ask_duePets
  exists_ask := Database.exists_ask_duePets

/-- Archives what is due under a part of the policy; for requests and for pets, this is what a retention
run does.
-/
def Part.archive (part : Part) (today : Date) (actor : Option Int) : Session Nat := do
  let d ← get
  archiveDue part.kind actor (part.reason d.policy) (d.ask (part.select d.policy today))

/-- What is due under a part of the policy is not more than what is live. -/
theorem Part.ncard_due_le (part : Part) (t : Tables) (limit : Option Date)
    : (part.due t limit).ncard ≤ { key | t.IsLive part.kind key }.ncard :=
  Set.ncard_le_ncard (fun _ due => part.live due) (t.finite_live part.kind)

end Retention

end AdoptionRecords
