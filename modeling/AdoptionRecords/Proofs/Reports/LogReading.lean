import AdoptionRecords.Overview
import AdoptionRecords.Proofs.History.LogReplay
import AdoptionRecords.Proofs.Reports.Ordering

/-! Reading the log. The latest entries, of one kind or of all, are the first of one list that
descends by date and number; the history of a record ascends by number. As long as time does not go
back, the numbers of the entries ascend with their dates, so each of the two is the other backwards.
-/

namespace AdoptionRecords

open Calendar Work

-----------------------------------------------------------------------------------------
-- Rows that are entries
-----------------------------------------------------------------------------------------

/-- A row of the log is permitted if it lacks no value that its columns require, and its operation
is one of the three.
-/
structure LogRow.Permitted (row : LogRow) : Prop where
  filled : LogRow.columns.gap? row.cells = none
  known : ∃ operation : Operation, row.operationName = some operation.name

/-- A permitted row holds an entry under each number. -/
theorem LogRow.Permitted.exists_entry {row : LogRow} (h : row.Permitted) (number : Int)
    : ∃ e : LogEntry, e.number = number ∧ e.row = row := by
  obtain ⟨table, record, operationName, performedBy, performedAt, reason⟩ := row
  obtain ⟨filled, operation, rfl⟩ := h
  cases table with
  | none => simp [columns, cells, Shape.gap?, Field.required, Cell.ofOption] at filled
  | some table =>
      cases record with
      | none => simp [columns, cells, Shape.gap?, Field.required, Cell.ofOption] at filled
      | some record =>
          cases performedAt with
          | none =>
              simp [columns, cells, Shape.gap?, Field.required, Field.nullable,
                Cell.ofOption] at filled
          | some performedAt =>
              exact ⟨⟨number, table, record, operation, performedBy, performedAt, reason⟩, rfl, rfl⟩

/-- The log is there, and the rules of its table permit all its rows. -/
structure Tables.LogPermitted (t : Tables) : Prop where
  present : ∃ rows, t.log = some rows
  permitted : ∀ number row, t.logRows.find? number = some row → row.Permitted

/-- Permitted rows are the entries that the log holds. -/
theorem Tables.LogPermitted.logs {t : Tables} (h : t.LogPermitted) : ∃ entries, t.Logs entries := by
  obtain ⟨rows, present⟩ := h.present
  have permitted : ∀ entry ∈ rows.entries, entry.2.Permitted := by
    rintro ⟨number, row⟩ member
    refine h.permitted number row ?_
    rwa [logRows_of_log present, Table.find?_eq_some_iff]
  have held : ∃ entries : List LogEntry, rows.entries = entries.map fun e => (e.number, e.row) := by
    generalize rows.entries = listed at permitted
    induction listed with
    | nil => exact ⟨[], rfl⟩
    | cons head rest ih =>
        obtain ⟨own, permitted⟩ := List.forall_mem_cons.mp permitted
        obtain ⟨e, number, row⟩ := own.exists_entry head.1
        obtain ⟨entries, same⟩ := ih permitted
        refine ⟨e :: entries, ?_⟩
        rw [List.map_cons, ← same, number, row]
  obtain ⟨entries, same⟩ := held
  exact ⟨entries, rows, present, same⟩

/-- The rules of the log permit the row of every entry. -/
theorem LogEntry.permitted_row (e : LogEntry) : e.row.Permitted where
  filled := by
    simp [LogRow.columns, LogRow.cells, row, Shape.gap?, Field.required, Field.nullable,
      Cell.ofOption]
  known := ⟨e.operation, rfl⟩

namespace Tables.Logs

variable {t : Tables} {entries : List LogEntry}

/-- A log that holds entries has permitted rows only. -/
theorem logPermitted (h : t.Logs entries) : t.LogPermitted := by
  obtain ⟨rows, present, same⟩ := h.rows_eq
  refine ⟨⟨rows, present⟩, fun number row found => ?_⟩
  rw [logRows_of_log present, Table.find?_eq_some_iff, same, List.mem_map] at found
  obtain ⟨e, -, together⟩ := found
  rw [← (Prod.mk.inj together).2]
  exact e.permitted_row

/-- An entry is one of those that the log holds if its row is in the log under its number. -/
theorem mem_iff (h : t.Logs entries) {e : LogEntry}
    : e ∈ entries ↔ t.logRows.find? e.number = some e.row := by
  obtain ⟨rows, present, same⟩ := h.rows_eq
  rw [logRows_of_log present, Table.find?_eq_some_iff, same, List.mem_map]
  constructor
  · exact fun member => ⟨e, member, rfl⟩
  · rintro ⟨other, member, together⟩
    obtain ⟨number, row⟩ := Prod.mk.inj together
    have read := other.entry_row
    rw [number, row, e.entry_row] at read
    cases read
    exact member

end Tables.Logs

-----------------------------------------------------------------------------------------
-- The latest entries
-----------------------------------------------------------------------------------------

namespace LogEntry

/-- One entry is later than another: it has the later date, or the greater number and the same date.
-/
def Later (a b : LogEntry) : Prop :=
  b.performedAt < a.performedAt ∨ a.performedAt = b.performedAt ∧ b.number < a.number

/-- What log entries are sorted by: the date, then the number. -/
def rank (e : LogEntry) : Instant ×ₗ Int :=
  toLex (e.performedAt, e.number)

theorem later_iff {a b : LogEntry} : a.Later b ↔ b.rank < a.rank := by
  rw [rank, rank, Prod.Lex.toLex_lt_toLex, Later, @eq_comm _ a.performedAt]

theorem number_of_rank {a b : LogEntry} (h : a.rank = b.rank) : a.number = b.number :=
  congrArg Prod.snd (toLex_inj.mp h)

/-- Whether the row of one entry is listed before that of another. -/
def newerFirst (a b : LogEntry) : Bool :=
  Log.newerFirst (a.number, a.row) (b.number, b.row)

theorem newerFirst_iff {a b : LogEntry} : newerFirst a b = true ↔ b.rank ≤ a.rank := by
  rw [rank, rank, Prod.Lex.toLex_le_toLex]
  simp [newerFirst, Log.newerFirst, row, @eq_comm _ a.performedAt]

/-- Whether an entry is about records of a kind, if one is given. -/
def isOf (kind : Option Kind) (e : LogEntry) : Bool :=
  kind.all fun kind => e.table == kind.liveTable

end LogEntry

/-- Entries of the log, latest first. -/
def Log.latest (entries : List LogEntry) : List LogEntry :=
  entries.mergeSort LogEntry.newerFirst

namespace Log

variable {entries : List LogEntry}

theorem mem_latest {e : LogEntry} : e ∈ latest entries ↔ e ∈ entries :=
  List.mem_mergeSort

theorem length_latest (entries : List LogEntry) : (latest entries).length = entries.length :=
  List.length_mergeSort _

/-- Entries whose numbers ascend are listed in strict descent of date and number. -/
theorem descending_latest (ascending : entries.Pairwise fun a b => a.number < b.number)
    : (latest entries).Pairwise fun a b => b.rank < a.rank := by
  refine descending_mergeSort LogEntry.rank (fun _ _ => LogEntry.newerFirst_iff) ?_
  exact ascending.imp fun below same => Int.ne_of_lt below (LogEntry.number_of_rank same)

/-- It does not matter whether entries are picked before they are sorted or afterwards. -/
theorem latest_filter (ascending : entries.Pairwise fun a b => a.number < b.number)
    (keep : LogEntry → Bool)
    : latest (entries.filter keep) = (latest entries).filter keep := by
  refine eq_of_descending LogEntry.rank (descending_latest (ascending.filter _))
    ((descending_latest ascending).filter _) ?_
  intro e
  rw [mem_latest, List.mem_filter, List.mem_filter, mem_latest]

end Log

namespace Store

variable {s : Store} {entries : List LogEntry}

/-- The latest entries of a kind, or of all kinds, are the first of the sorted ones. -/
theorem ask_recent (h : s.tables.Logs entries) (limit : Int) (kind : Option Kind)
    : s.ask (Log.recent limit kind)
      = .ok ((Log.latest (entries.filter (·.isOf kind))).take limit.toNat) := by
  obtain ⟨rows, present, same⟩ := h.rows_eq
  have ofKind : (Log.rowsOf rows kind).entries
      = (entries.filter (·.isOf kind)).map fun e => (e.number, e.row) := by
    cases kind with
    | none =>
        rw [Log.rowsOf, same]
        simp [LogEntry.isOf]
    | some kind =>
        simp only [Log.rowsOf, Table.filter, same, List.filter_map]
        rfl
  have sorted : (Log.rowsOf rows kind).entries.mergeSort Log.newerFirst
      = (Log.latest (entries.filter (·.isOf kind))).map fun e => (e.number, e.row) := by
    rw [ofKind, Log.latest, List.map_mergeSort]
    exact fun _ _ _ _ => rfl
  have read : s.Yields (Log.recent limit kind)
      ((Log.latest (entries.filter (·.isOf kind))).take limit.toNat) s := by
    simp only [Log.recent, yields_bind_iff, yields_logTable_iff]
    refine ⟨rows, s, ⟨present, rfl⟩, ?_⟩
    rw [sorted, ← List.map_take]
    exact yields_mapM_entry _
  exact read.ask_eq

end Store

-----------------------------------------------------------------------------------------
-- What is read
-----------------------------------------------------------------------------------------

namespace Database

variable {d : Database}

/-- (d.ReadsLog latest) holds if latest has the entries of the log, of each kind and of all, each
once and latest first, and all that is read of the log agrees with it. A listing of the latest
entries has the first of them; the entries of a kind can as well be picked out of all entries before
the listing is cut off; and the history of a record has those about it in the order of their
numbers.
-/
structure ReadsLog (d : Database) (latest : Option Kind → List LogEntry) : Prop where
  members : ∀ kind e, e ∈ latest kind
    ↔ d.store.tables.logRows.find? e.number = some e.row ∧ e.isOf kind = true
  descending : ∀ kind, (latest kind).Pairwise LogEntry.Later
  recent : ∀ limit kind, Overview.recent d limit kind = (latest kind).take limit.toNat
  picked : ∀ limit kind all, (d.store.tables.logRows.size : Int) ≤ all →
    Overview.recent d limit kind
      = ((Overview.recent d all none).filter (·.isOf kind)).take limit.toNat
  extended : ∀ kind fewer more, fewer ≤ more →
    Overview.recent d fewer kind <+: Overview.recent d more kind
  history : ∀ kind key, ∃ entries, d.ask (Log.history kind key) = .ok entries
    ∧ (entries.Pairwise fun a b => a.number < b.number)
    ∧ ∀ e, e ∈ entries
      ↔ d.store.tables.logRows.find? e.number = some e.row ∧ e.isAbout kind key = true

/-- The latest entries that are read are the first of the sorted ones. -/
theorem recent_eq {entries : List LogEntry} (reachable : d.reachable = true)
    (held : d.store.tables.Logs entries) (limit : Int) (kind : Option Kind)
    : Overview.recent d limit kind
      = (Log.latest (entries.filter (·.isOf kind))).take limit.toNat := by
  rw [Overview.recent, ask, if_pos reachable, Store.ask_recent held]

/-- All entries are read if as many are asked for as there are rows in the log. -/
theorem recent_of_size_le {entries : List LogEntry} (reachable : d.reachable = true)
    (held : d.store.tables.Logs entries) {limit : Int}
    (whole : (d.store.tables.logRows.size : Int) ≤ limit) (kind : Option Kind)
    : Overview.recent d limit kind = Log.latest (entries.filter (·.isOf kind)) := by
  rw [recent_eq reachable held]
  obtain ⟨rows, present, same⟩ := held
  have total : rows.size = entries.length := by
    rw [Table.size, same, List.length_map]
  have fewer := entries.length_filter_le (·.isOf kind)
  rw [Tables.logRows_of_log present] at whole
  apply List.take_of_length_le
  rw [Log.length_latest]
  omega

/-- What is read of a log that holds entries. -/
theorem readsLog_latest {entries : List LogEntry} (reachable : d.reachable = true)
    (held : d.store.tables.Logs entries)
    : d.ReadsLog fun kind => Log.latest (entries.filter (·.isOf kind)) where
  members kind e := by
    rw [Log.mem_latest, List.mem_filter, held.mem_iff]
  descending kind :=
    (Log.descending_latest (held.ascending.filter _)).imp LogEntry.later_iff.mpr
  recent := recent_eq reachable held
  picked limit kind all whole := by
    have every : entries.filter (·.isOf none) = entries := List.filter_eq_self.mpr fun _ _ => rfl
    rw [recent_eq reachable held, recent_of_size_le reachable held whole, every,
      Log.latest_filter held.ascending]
  extended kind fewer more le := by
    rw [recent_eq reachable held, recent_eq reachable held]
    exact List.take_prefix_take_left (Int.toNat_le_toNat le)
  history kind key := by
    refine ⟨entries.filter (·.isAbout kind key), ?_, held.ascending.filter _, fun e => ?_⟩
    · rw [ask, if_pos reachable, Store.ask_history held]
    · rw [List.mem_filter, held.mem_iff]

end Database

-----------------------------------------------------------------------------------------
-- While time does not go back
-----------------------------------------------------------------------------------------

/-- The entries that the log of a store holds are in order if numbers are drawn above theirs, none
is dated after the present, and their dates never go back.
-/
structure Store.InOrder (s : Store) (now : Instant) (entries : List LogEntry) : Prop where
  held : s.tables.Logs entries
  below : ∀ e ∈ entries, e.number < s.sequences.log
  past : ∀ e ∈ entries, e.performedAt ≤ now
  forward : entries.Pairwise fun a b => a.performedAt ≤ b.performedAt

namespace Store.InOrder

variable {s after : Store} {now : Instant} {entries : List LogEntry}

/-- Entries that are in order are so later on. -/
theorem later (h : s.InOrder now entries) {next : Instant} (le : now ≤ next)
    : s.InOrder next entries :=
  { h with past := fun e member => (h.past e member).trans le }

/-- What leaves the log alone leaves its entries in order. -/
theorem silent (h : s.InOrder now entries) (log : after.tables.log = s.tables.log)
    (sequences : s.sequences ≤ after.sequences)
    : after.InOrder now entries where
  held := by
    obtain ⟨rows, present, same⟩ := h.held
    exact ⟨rows, log.trans present, same⟩
  below e member := Int.lt_of_lt_of_le (h.below e member) sequences.2
  past := h.past
  forward := h.forward

/-- An entry that is written now under the next number is the last in order. -/
theorem append {t : Transition} {tables : Tables} {rows : Table LogRow}
    (h : s.InOrder now entries) (log : tables.log = s.tables.log) (present : tables.log = some rows)
    : InOrder
        { s.numbered with
          tables := tables.setLog
            (rows.insert s.sequences.log (t.entry s.sequences.log now).row) }
        now (entries ++ [t.entry s.sequences.log now]) where
  held := by
    obtain ⟨rows', present', same⟩ := h.held
    have held : tables.Logs entries := ⟨rows', log.trans present', same⟩
    exact held.insert (t.entry s.sequences.log now) present h.below
  below := LogEntry.below_append h.below rfl
  past := by
    intro e member
    rcases List.mem_append.mp member with earlier | last
    · exact h.past e earlier
    · rw [List.mem_singleton.mp last]
      exact le_rfl
  forward := by
    refine List.pairwise_append.mpr ⟨h.forward, List.pairwise_singleton .., ?_⟩
    intro e earlier last member
    rw [List.mem_singleton.mp member]
    exact h.past e earlier

/-- Entries of which some are removed stay in order. -/
theorem prune (h : s.InOrder now entries) {rows : Table LogRow} (present : s.tables.log = some rows)
    (keep : Int → LogRow → Bool)
    : InOrder { s with tables := s.tables.setLog (rows.filter keep) } now
        (entries.filter fun e => keep e.number e.row) where
  held := by
    obtain ⟨rows', present', same⟩ := h.held
    cases present.symm.trans present'
    refine ⟨_, rfl, ?_⟩
    show rows.entries.filter _ = _
    rw [same, List.filter_map]
    rfl
  below e member := h.below e (List.mem_filter.mp member).1
  past e member := h.past e (List.mem_filter.mp member).1
  forward := h.forward.filter _

/-- Every change leaves the log in order. -/
theorem step {c : Change} (h : s.InOrder now entries) (made : s.Makes now c after)
    : ∃ entries, after.InOrder now entries := by
  have sequences := made.sequences_le
  cases made with
  | create | amend => exact ⟨entries, h.silent rfl sequences⟩
  | transition moves present free => exact ⟨_, h.append moves.log_eq present⟩
  | note present free => exact ⟨_, h.append rfl present⟩
  | prune present => exact ⟨_, h.prune present _⟩
  | complete =>
      obtain ⟨rows, present, -⟩ := h.held
      refine ⟨entries, h.silent ?_ sequences⟩
      simp [Tables.complete, present]

/-- A request leaves the log in order at the present. -/
theorem request {d : Database} (h : d.store.InOrder d.now entries) (r : Request)
    : ∃ entries, (r.after d).store.InOrder d.now entries := by
  refine @Runs.preserves _ _ _ _ _ (fun _ s => ∃ entries, s.InOrder d.now entries) (r.runs d) ?_ ?_
    [] ⟨entries, h⟩
  · rintro _ s after ⟨entries, held⟩ tables sequences
    exact ⟨entries, held.silent (by rw [tables]) sequences⟩
  · rintro _ s c after ⟨entries, held⟩ _ made
    exact held.step made

/-- The log of a fresh database is empty. -/
theorem fresh (clock : Instant) : (Database.fresh clock).store.InOrder now [] where
  held := ⟨Table.empty, rfl, rfl⟩
  below := by simp
  past := by simp
  forward := .nil

/-- The log stays in order as long as time does not go back, by induction on the requests. -/
theorem after_requests {d : Database} {requests : List Request}
    (forward : d.Throughout (fun d r => d.now ≤ (r.after d).now) requests)
    (h : d.store.InOrder d.now entries)
    : ∃ entries, (d.after requests).store.InOrder (d.after requests).now entries := by
  induction requests generalizing d entries with
  | nil => exact ⟨entries, h⟩
  | cons r rest ih =>
      obtain ⟨own, forward⟩ := forward
      obtain ⟨entries, next⟩ := h.request r
      exact ih forward (next.later own)

/-- Entries that are in order are listed backwards when the latest of them come first. -/
theorem latest_eq (h : s.InOrder now entries) (keep : LogEntry → Bool)
    : Log.latest (entries.filter keep) = (entries.filter keep).reverse := by
  have ascending : entries.Pairwise fun a b => a.rank < b.rank := by
    refine h.held.ascending.imp₂ ?_ h.forward
    intro a b below le
    rw [LogEntry.rank, LogEntry.rank, Prod.Lex.toLex_lt_toLex]
    rcases lt_or_eq_of_le le with before | same
    · exact .inl before
    · exact .inr ⟨same, below⟩
  refine eq_of_descending LogEntry.rank (Log.descending_latest (h.held.ascending.filter _))
    (List.pairwise_reverse.mpr (ascending.filter _)) ?_
  intro e
  rw [Log.mem_latest, List.mem_reverse]

end Store.InOrder

namespace Database

/-- The history of a record is what all latest entries of its kind tell of it, backwards, if the log
is in order.
-/
theorem history_eq_reverse {d : Database} {entries : List LogEntry} (reachable : d.reachable = true)
    (h : d.store.InOrder d.now entries) (kind : Kind) (key limit : Int)
    (whole : (d.store.tables.logRows.size : Int) ≤ limit)
    : d.ask (Log.history kind key)
      = .ok ((Overview.recent d limit (some kind)).filter (·.record == key)).reverse := by
  rw [recent_of_size_le reachable h.held whole, h.latest_eq, List.filter_reverse,
    List.reverse_reverse, List.filter_filter, ask, if_pos reachable, Store.ask_history h.held]
  congr 2
  funext e
  exact Bool.and_comm ..

/-- Reading the log, on any database that can be reached whose log is there and permitted. What is
read is the first of the sorted entries, of each kind and of all, and the history of a record has
its entries in the order of their numbers. After requests to a fresh database during which time does
not go back, the history of a record is what all latest entries of its kind tell of it, backwards.
-/
theorem log_reading
    : (∀ d : Database, d.reachable = true → d.store.tables.LogPermitted →
        ∃ latest, d.ReadsLog latest)
      ∧ ∀ clock requests,
        (fresh clock).Throughout (fun d r => d.now ≤ (r.after d).now) requests →
        let d := (fresh clock).after requests
        d.reachable = true → ∀ kind key limit, (d.store.tables.logRows.size : Int) ≤ limit →
        d.ask (Log.history kind key)
          = .ok ((Overview.recent d limit (some kind)).filter (·.record == key)).reverse := by
  constructor
  · intro d reachable permitted
    obtain ⟨entries, held⟩ := permitted.logs
    exact ⟨_, readsLog_latest reachable held⟩
  · intro clock requests forward d reachable kind key limit whole
    obtain ⟨entries, ordered⟩ := Store.InOrder.after_requests forward (Store.InOrder.fresh clock)
    exact history_eq_reverse reachable ordered kind key limit whole

/-- An owner is archived and comes back at one instant: the history tells both, and the latest
entries tell them backwards.
-/
theorem log_reading_of_owner
    : let requests : List Request := [
        .create .petOwner (PetOwnerContent.ofName "Ann"),
        .transition ⟨.archive, .petOwner, 1, none, "moved away"⟩,
        .transition ⟨.restore, .petOwner, 1, some 7, "came back"⟩]
      let d := (fresh .epoch).after requests
      (fresh .epoch).Throughout (fun d r => d.now ≤ (r.after d).now) requests
      ∧ d.store.tables.LogPermitted
      ∧ d.ask (Log.history .petOwner 1)
        = .ok ((Overview.recent d 2 (some .petOwner)).filter (·.record == 1)).reverse
      ∧ ∃ latest, d.ReadsLog latest := by
  intro requests d
  obtain ⟨reads, backwards⟩ := log_reading
  have forward : (fresh .epoch).Throughout (fun d r => d.now ≤ (r.after d).now) requests :=
    ⟨by decide +kernel, by decide +kernel, by decide +kernel, trivial⟩
  obtain ⟨entries, ordered⟩ := Store.InOrder.after_requests forward (Store.InOrder.fresh .epoch)
  have permitted : d.store.tables.LogPermitted := ordered.held.logPermitted
  exact ⟨forward, permitted, backwards .epoch requests forward (by decide +kernel) .petOwner 1 2
    (by decide +kernel), reads d (by decide +kernel) permitted⟩

end Database

end AdoptionRecords
