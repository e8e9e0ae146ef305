import AdoptionRecords.Proofs.Retention.Archiving

/-! How many days requests are kept. A threshold is counted back from today to a cutoff, which may lie
before the first date that the store can hold, or before the first date that there is. Only the
former is refused, and then no request is archived at all; so a longer threshold may archive a
request without an approval date that a shorter one leaves live.
-/

namespace AdoptionRecords

open Calendar

-----------------------------------------------------------------------------------------
-- Cutoffs
-----------------------------------------------------------------------------------------

namespace Retention

/-- A threshold is usable if the day to which it counts back lies before all dates, or is a date that
the store can hold.
-/
def Usable (today : Date) (days : Int) : Prop :=
  today.day - days < firstDay ∨ Date.firstStored ≤ today.day - days

instance (today : Date) (days : Int) : Decidable (Usable today days) :=
  inferInstanceAs (Decidable (_ ∨ _))

variable {today : Date} {days : Int}

/-- Counting days back leads before all dates, where there is no cutoff, or to the date of that day. -/
theorem daysBefore?_eq (today : Date) (forward : 0 ≤ days)
    : (today.day - days < firstDay ∧ today.daysBefore? days = none)
      ∨ ∃ limit, today.daysBefore? days = some limit ∧ limit.day = today.day - days := by
  have last := today.le_last
  by_cases covered : firstDay ≤ today.day - days
  · have bounds : firstDay ≤ today.day - days ∧ today.day - days ≤ lastDay := ⟨covered, by omega⟩
    exact .inr ⟨⟨today.day - days, bounds.1, bounds.2⟩, dif_pos bounds, rfl⟩
  · have beyond : ¬ (firstDay ≤ today.day - days ∧ today.day - days ≤ lastDay) :=
      fun bounds => covered bounds.1
    exact .inl ⟨by omega, dif_neg beyond⟩

/-- The store accepts the cutoff of a threshold exactly when the threshold is usable. -/
theorem accepts_iff (forward : 0 ≤ days) : Accepts (today.daysBefore? days) ↔ Usable today days := by
  rcases daysBefore?_eq today forward with ⟨beyond, none⟩ | ⟨limit, some, day⟩
  · rw [none]
    exact ⟨fun _ => .inl beyond, fun _ => rfl⟩
  · have first := limit.first_le
    rw [some]
    simp only [Accepts, Option.toList_some, List.all_cons, List.all_nil, Bool.and_true,
      Date.isStorable, decide_eq_true_eq, Usable, ← day]
    omega

/-- What lies before the cutoff of a threshold is what is more days old than the threshold. -/
theorem before_cutoff_iff (forward : 0 ≤ days) (date : Date)
    : (∃ limit, today.daysBefore? days = some limit ∧ date < limit)
      ↔ days < today.day - date.day := by
  have first := date.first_le
  rcases daysBefore?_eq today forward with ⟨beyond, none⟩ | ⟨limit, some, day⟩
  · rw [none]
    constructor
    · rintro ⟨limit, ⟨⟩, -⟩
    · omega
  · rw [some]
    constructor
    · rintro ⟨found, same, before⟩
      cases same
      have less : date.day < limit.day := before
      omega
    · intro past
      have less : date.day < limit.day := by omega
      exact ⟨limit, rfl, less⟩

end Retention

/-- The live requests that are completed and, if they have an approval date, were approved more than
a number of days ago.
-/
def Tables.requestsPast (t : Tables) (today : Date) (days : Int) : Set Int :=
  { key | ∃ row, t.liveRow? .adoptionRequest key = some row
    ∧ (row.content.status = some "Approved" ∨ row.content.status = some "Rejected")
    ∧ ∀ date, row.content.approved = some date → days < today.day - date.day }

/-- The requests that are due by the cutoff of a threshold are those that are past it. -/
theorem Tables.dueRequests_eq (t : Tables) {today : Date} {days : Int} (forward : 0 ≤ days)
    : t.dueRequests (today.daysBefore? days) = t.requestsPast today days := by
  ext key
  simp only [dueRequests, requestsPast, Retention.RequestDue, Set.mem_ofPred_eq,
    Retention.before_cutoff_iff forward]

-----------------------------------------------------------------------------------------
-- Thresholds
-----------------------------------------------------------------------------------------

namespace Database

variable {d : Database} {today : Date}

/-- A threshold that is not usable archives nothing, since the store refuses its cutoff. -/
theorem archiveRequests_of_not_usable (actor : Option Int) (forward : 0 ≤ d.policy.requestDays)
    (refused : ¬ Retention.Usable today d.policy.requestDays)
    : (Retention.archiveRequests today actor).run d = (0, d) := by
  cases answer : d.ask (Retention.dueRequests d.policy today) with
  | error fault => exact Retention.Part.requests.archive_of_error actor answer
  | ok keys =>
      obtain ⟨after, yields⟩ := Retention.yields_of_ask answer
      obtain ⟨-, -, accepted, -⟩ := Store.yields_dueRequests_iff.mp yields
      exact (refused ((Retention.accepts_iff forward).mp accepted)).elim

/-- A usable threshold archives exactly the requests that are past it, if none of them is archived
already and the log has free numbers for all live requests.
-/
theorem archiveRequests_of_usable (reachable : d.reachable = true)
    (migrated : d.store.tables.Migrated)
    (exclusive : ∀ key, d.store.tables.IsLive .adoptionRequest key →
      ¬ d.store.tables.IsArchived .adoptionRequest key)
    (free : d.store.HasFreeNumbers
      (Set.ncard { key | d.store.tables.IsLive .adoptionRequest key }))
    (actor : Option Int) (forward : 0 ≤ d.policy.requestDays)
    (usable : Retention.Usable today d.policy.requestDays) (key : Int)
    : let run := (Retention.archiveRequests today actor).run d
      (¬ d.store.tables.IsArchived .adoptionRequest key
        ∧ run.2.store.tables.IsArchived .adoptionRequest key)
      ↔ key ∈ d.store.tables.requestsPast today d.policy.requestDays := by
  have accepted := (Retention.accepts_iff forward).mpr usable
  obtain ⟨keys, -, due, -, completed⟩ := Retention.Part.requests.archive_of_accepted actor reachable
    migrated accepted exclusive (free.mono (Retention.Part.requests.ncard_due_le ..))
  obtain ⟨moved, others⟩ := rows_of_archivals completed
  have due (key : Int)
      : key ∈ keys ↔ key ∈ d.store.tables.requestsPast today d.policy.requestDays := by
    rw [← Tables.dueRequests_eq _ forward]
    exact due key
  intro run
  rw [← due key]
  constructor
  · rintro ⟨unarchived, archived⟩
    by_contra absent
    have same : run.2.store.tables.archivedRow? .adoptionRequest key
        = d.store.tables.archivedRow? .adoptionRequest key :=
      (others .adoptionRequest key fun h => absent h.2).2
    rw [Tables.IsArchived, same] at archived
    exact unarchived archived
  · intro member
    obtain ⟨row, found, -, there⟩ := moved key member
    exact ⟨exclusive key (Tables.isLive_of_liveRow found), Tables.isArchived_of_archivedRow there⟩

/-- The database with another threshold for requests. -/
def withRequestDays (d : Database) (days : Int) : Database :=
  { d with policy := { d.policy with requestDays := days } }

/-- The requests that are archived under a threshold, and were not archived before. -/
def archivedUnder (d : Database) (today : Date) (actor : Option Int) (days : Int) : Set Int :=
  let run := (Retention.archiveRequests today actor).run (d.withRequestDays days)
  { key | ¬ d.store.tables.IsArchived .adoptionRequest key
    ∧ run.2.store.tables.IsArchived .adoptionRequest key }

/-- Thresholds for requests, on any database that can be reached, whose tables are those of the
schema, where no live request is archived as well and the log has free numbers for all of them. A
usable threshold archives exactly the completed requests that have no approval date or were approved
more days ago. Any other is refused by the store: it counts nothing and changes nothing. So a longer
threshold archives no more than a usable one.
-/
theorem thresholds_exact (reachable : d.reachable = true) (migrated : d.store.tables.Migrated)
    (exclusive : ∀ key, d.store.tables.IsLive .adoptionRequest key →
      ¬ d.store.tables.IsArchived .adoptionRequest key)
    (free : d.store.HasFreeNumbers
      (Set.ncard { key | d.store.tables.IsLive .adoptionRequest key }))
    (today : Date) (actor : Option Int)
    : (∀ days, 0 ≤ days → Retention.Usable today days →
        d.archivedUnder today actor days = d.store.tables.requestsPast today days)
      ∧ (∀ days, 0 ≤ days → ¬ Retention.Usable today days →
          (Retention.archiveRequests today actor).run (d.withRequestDays days)
            = (0, d.withRequestDays days))
      ∧ ∀ days longer, 0 ≤ days → days ≤ longer → Retention.Usable today days →
          d.archivedUnder today actor longer ⊆ d.archivedUnder today actor days := by
  have usable_exact (days : Int) (forward : 0 ≤ days) (usable : Retention.Usable today days)
      : d.archivedUnder today actor days = d.store.tables.requestsPast today days :=
    Set.ext fun key => archiveRequests_of_usable (d := d.withRequestDays days) reachable migrated
      exclusive free actor forward usable key
  have refused (days : Int) (forward : 0 ≤ days) (unusable : ¬ Retention.Usable today days)
      : (Retention.archiveRequests today actor).run (d.withRequestDays days)
          = (0, d.withRequestDays days) :=
    archiveRequests_of_not_usable actor forward unusable
  refine ⟨usable_exact, refused, ?_⟩
  intro days longer forward le usable
  have ahead : 0 ≤ longer := Int.le_trans forward le
  by_cases reached : Retention.Usable today longer
  · rw [usable_exact days forward usable, usable_exact longer ahead reached]
    rintro key ⟨row, found, completed, past⟩
    refine ⟨row, found, completed, ?_⟩
    intro date approved
    exact Int.lt_of_le_of_lt le (past date approved)
  · rintro key ⟨unarchived, archived⟩
    rw [refused longer ahead reached] at archived
    exact (unarchived archived).elim

/-- A request that was approved on an unknown date is archived under thresholds of 30 days and of
300000000, which lead to a date and before all dates, while the store refuses one of 3000000 days.
-/
theorem thresholds_exact_of_request
    : let d := (fresh .epoch).after [
        .create .adoptionRequest (AdoptionRequestContent.approvedFor 1 1)]
      let today := d.clock.date
      1 ∈ d.archivedUnder today none 30
      ∧ 1 ∈ d.archivedUnder today none 300000000
      ∧ (Retention.archiveRequests today none).run (d.withRequestDays 3000000)
        = (0, d.withRequestDays 3000000) := by
  intro d today
  have located := Located.reached .epoch
    [.create .adoptionRequest (AdoptionRequestContent.approvedFor 1 1)]
  have free : d.store.HasFreeNumbers
      (Set.ncard { key | d.store.tables.IsLive .adoptionRequest key }) := by
    rw [Tables.ncard_live]
    decide +kernel
  obtain ⟨usable, refused, -⟩ := thresholds_exact (d := d) (by decide +kernel) (by decide +kernel)
    (by with_reducible exact located.not_both .adoptionRequest) free today none
  have past (days : Int) : 1 ∈ d.store.tables.requestsPast today days := by
    refine ⟨.fresh (AdoptionRequestContent.approvedFor 1 1), by decide +kernel, .inl rfl, ?_⟩
    intro date approved
    simp [LiveRow.fresh, AdoptionRequestContent.approvedFor] at approved
  refine ⟨?_, ?_, refused 3000000 (by decide) (by decide +kernel)⟩
  · rw [usable 30 (by decide) (by decide +kernel)]
    exact past 30
  · rw [usable 300000000 (by decide) (by decide +kernel)]
    exact past 300000000

/-- A completed request without an approval date is not archived under every threshold, and a longer
threshold may archive more than a shorter one: under 3000000 days, which lead before the dates that
the store can hold, the request stays live; under 300000000 days it is archived.
-/
theorem undated_request_kept
    : let content : AdoptionRequestContent := .approvedFor 1 1
      let d := (fresh .epoch).after [.create .adoptionRequest content]
      let today := d.clock.date
      content.status = some "Approved" ∧ content.approved = none
      ∧ d.store.tables.liveRow? .adoptionRequest 1 = some (.fresh content)
      ∧ ¬ d.store.tables.IsArchived .adoptionRequest 1
      ∧ d.store.HasFreeNumbers 1
      ∧ 1 ∉ d.archivedUnder today none 3000000
      ∧ 1 ∈ d.archivedUnder today none 300000000 := by
  intro content d today
  have unmoved : ¬ ((Retention.archiveRequests today none).run
      (d.withRequestDays 3000000)).2.store.tables.IsArchived .adoptionRequest 1 := by
    decide +kernel
  have moved : ((Retention.archiveRequests today none).run
      (d.withRequestDays 300000000)).2.store.tables.IsArchived .adoptionRequest 1 := by
    decide +kernel
  have unarchived : ¬ d.store.tables.IsArchived .adoptionRequest 1 := by
    decide +kernel
  exact ⟨rfl, rfl, by decide +kernel, unarchived, by decide +kernel, fun h => unmoved h.2,
    unarchived, moved⟩

end Database

end AdoptionRecords
