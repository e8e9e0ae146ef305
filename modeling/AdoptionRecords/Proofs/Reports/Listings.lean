import AdoptionRecords.Overview
import AdoptionRecords.Proofs.Guarantees.Composition
import AdoptionRecords.Proofs.Reports.Ordering
import AdoptionRecords.Proofs.Store.Schema
import Mathlib.Algebra.Ring.Int.Defs

/-! Reports and listings of the archive agree. For each kind there is one list of its archived rows,
latest first. Listings are the first rows of it, counts are its length, and the newest and the
oldest date of a summary are the first and the last date in it. Nothing that is told of a kind
depends on the tables of other kinds.
-/

namespace AdoptionRecords

open Calendar Work

-----------------------------------------------------------------------------------------
-- The order of listings
-----------------------------------------------------------------------------------------

namespace Listing

variable {kind : Kind}

/-- One archived row is listed before another: it was archived later, or only the other one has no
date, or it has the greater key and the same date or none as well.
-/
inductive Before (a b : Int × ArchivedRow kind) : Prop
  | later {x y : Instant} (first : a.2.archivedAt = some x) (second : b.2.archivedAt = some y)
    (later : y < x)
  | dated {x : Instant} (first : a.2.archivedAt = some x) (second : b.2.archivedAt = none)
  | greater (same : a.2.archivedAt = b.2.archivedAt) (greater : b.1 < a.1)

/-- A date among all dates, below which no date stands. -/
def place : Option Instant → WithBot Instant
  | some date => date
  | none => ⊥

/-- What archived rows are sorted by: the date, then the key. -/
def rank (entry : Int × ArchivedRow kind) : WithBot Instant ×ₗ Int :=
  toLex (place entry.2.archivedAt, entry.1)

theorem place_injective {x y : Option Instant} (h : place x = place y) : x = y := by
  cases x <;> cases y <;> simp_all [place]

theorem before_iff {a b : Int × ArchivedRow kind} : Before a b ↔ rank b < rank a := by
  rw [rank, rank, Prod.Lex.toLex_lt_toLex]
  constructor
  · intro h
    cases h with
    | later first second later =>
        rw [first, second]
        exact .inl (WithBot.coe_lt_coe.mpr later)
    | dated first second =>
        rw [first, second]
        exact .inl (WithBot.bot_lt_coe _)
    | greater same greater => exact .inr ⟨congrArg place same.symm, greater⟩
  · rintro (later | ⟨same, greater⟩)
    · cases first : a.2.archivedAt with
      | none => simp [first, place] at later
      | some x =>
          cases second : b.2.archivedAt with
          | none => exact .dated first second
          | some y =>
              rw [first, second] at later
              exact .later first second (WithBot.coe_lt_coe.mp later)
    · exact .greater (place_injective same).symm greater

theorem latestFirst_iff {a b : Int × ArchivedRow kind}
    : latestFirst a b = true ↔ rank b ≤ rank a := by
  rw [rank, rank, Prod.Lex.toLex_le_toLex, latestFirst]
  cases a.2.archivedAt with
  | none => cases b.2.archivedAt <;> simp [place]
  | some x =>
      cases b.2.archivedAt with
      | none => simp [place]
      | some y => simp [place, @eq_comm _ x y]

theorem key_of_rank {a b : Int × ArchivedRow kind} (h : rank a = rank b) : a.1 = b.1 :=
  congrArg Prod.snd (toLex_inj.mp h)

variable {rows : Table (ArchivedRow kind)}

theorem mem_ordered {key : Int} {row : ArchivedRow kind}
    : (key, row) ∈ ordered rows ↔ rows.find? key = some row := by
  rw [ordered, List.mem_mergeSort, Table.find?_eq_some_iff]

/-- Rows are listed in strict descent of their ranks. -/
theorem descending_ordered (rows : Table (ArchivedRow kind))
    : (ordered rows).Pairwise fun a b => rank b < rank a := by
  refine descending_mergeSort rank (fun _ _ => latestFirst_iff) ?_
  exact rows.sorted.imp fun below same => Int.ne_of_lt below (key_of_rank same)

/-- It does not matter whether rows are picked before they are sorted or afterwards. -/
theorem ordered_filter (rows : Table (ArchivedRow kind)) (keep : Int → ArchivedRow kind → Bool)
    : ordered (rows.filter keep) = (ordered rows).filter fun entry => keep entry.1 entry.2 := by
  refine eq_of_descending rank (descending_ordered _) ((descending_ordered _).filter _) ?_
  rintro ⟨key, row⟩
  rw [mem_ordered, List.mem_filter, mem_ordered, Table.find?_filter, Option.filter_eq_some_iff]

theorem length_ordered (rows : Table (ArchivedRow kind)) : (ordered rows).length = rows.size :=
  List.length_mergeSort _

end Listing

-----------------------------------------------------------------------------------------
-- The first and the last date
-----------------------------------------------------------------------------------------

namespace Summary

theorem later_eq_max (a b : Instant) : later a b = max a b := by
  rw [later, max_def_lt]

theorem earlier_eq_min (a b : Instant) : earlier a b = min a b := by
  rw [earlier, min_comm, min_def_lt]

theorem pick_later (dates : List Instant) : pick later dates = dates.max? := by
  have same : later = max := by
    funext a b
    exact later_eq_max a b
  cases dates with
  | nil => rfl
  | cons first rest => rw [pick, same, List.max?_cons']

theorem pick_earlier (dates : List Instant) : pick earlier dates = dates.min? := by
  have same : earlier = min := by
    funext a b
    exact earlier_eq_min a b
  cases dates with
  | nil => rfl
  | cons first rest => rw [pick, same, List.min?_cons']

variable {dates sorted : List Instant}

/-- The latest of some dates is the first once they are sorted, latest first. -/
theorem pick_later_eq_head? (same : sorted.Perm dates) (descending : sorted.Pairwise (· ≥ ·))
    : pick later dates = sorted.head? := by
  rw [pick_later]
  cases found : sorted.head? with
  | none =>
      rw [List.head?_eq_none_iff.mp found, List.nil_perm] at same
      rw [same]
      rfl
  | some first =>
      rw [List.max?_eq_some_iff]
      exact first_of_sorted same descending (fun _ => le_rfl) found

/-- The earliest of some dates is the last once they are sorted, latest first. -/
theorem pick_earlier_eq_getLast? (same : sorted.Perm dates) (descending : sorted.Pairwise (· ≥ ·))
    : pick earlier dates = sorted.getLast? := by
  rw [pick_earlier, ← List.head?_reverse]
  have ascending := List.pairwise_reverse.mpr descending
  have same := (List.reverse_perm sorted).trans same
  cases found : sorted.reverse.head? with
  | none =>
      rw [List.head?_eq_none_iff.mp found, List.nil_perm] at same
      rw [same]
      rfl
  | some first =>
      rw [List.min?_eq_some_iff]
      exact first_of_sorted same ascending (fun _ => le_rfl) found

/-- The dates of a listing, as it is sorted. -/
theorem descending_dates {kind : Kind} (rows : Table (ArchivedRow kind))
    : ((Listing.ordered rows).filterMap (·.2.archivedAt)).Pairwise (· ≥ ·) := by
  rw [List.pairwise_filterMap]
  refine (Listing.descending_ordered rows).imp ?_
  intro a b below x first y second
  rcases Listing.before_iff.mpr below with ⟨first', second', later⟩ | ⟨-, none⟩ | ⟨same, -⟩
  · cases first.symm.trans first'
    cases second.symm.trans second'
    exact le_of_lt later
  · cases none.symm.trans second
  · cases (first.symm.trans same).trans second
    exact le_rfl

/-- A summary counts the rows of a listing, and has the first and the last date in it. -/
theorem ofRows_eq {kind : Kind} (rows : Table (ArchivedRow kind))
    : ofRows rows =
      { kind
        count := (Listing.ordered rows).length
        oldest := ((Listing.ordered rows).filterMap (·.2.archivedAt)).getLast?
        newest := ((Listing.ordered rows).filterMap (·.2.archivedAt)).head? } := by
  have same : ((Listing.ordered rows).filterMap (·.2.archivedAt)).Perm
      (rows.entries.filterMap (·.2.archivedAt)) :=
    (rows.entries.mergeSort_perm Listing.latestFirst).filterMap _
  have descending := descending_dates rows
  rw [ofRows, Listing.length_ordered, pick_later_eq_head? same descending,
    pick_earlier_eq_getLast? same descending]

end Summary

-----------------------------------------------------------------------------------------
-- Rows that can be shown
-----------------------------------------------------------------------------------------

/-- An archived row can be shown with all its fields if nothing of it is missing that the columns of
its table require.
-/
theorem ArchivedRow.shown_of_filled {kind : Kind} {row : ArchivedRow kind}
    (h : (ArchivedRow.columns kind).gap? row.cells = none)
    : (Shown.columns kind).gap? (Shown.cells kind row.shown) = none
      ∧ Metadata.columns.gap? row.toMetadata.cells = none := by
  rw [ArchivedRow.columns, ArchivedRow.cells, Shape.gap?_append (Content.length_cells kind _),
    Option.or_eq_none_iff] at h
  obtain ⟨content, metadata⟩ := h
  refine ⟨?_, metadata⟩
  cases kind with
  | pet =>
      have flagged : row.archived ≠ none := by
        intro unknown
        simp [Metadata.columns, Metadata.cells, unknown, Shape.gap?, Field.required,
          Cell.ofOption] at metadata
      have flag : LiveRow.flagColumns.gap?
          [Cell.ofOption .bool row.archived, Cell.ofOption .instant row.archivedAt] = none := by
        cases known : row.archived <;>
          simp_all [LiveRow.flagColumns, Shape.gap?, Field.required, Field.nullable, Cell.ofOption]
      show (LiveRow.columns .pet).gap? (LiveRow.cells _) = none
      rw [LiveRow.columns, LiveRow.cells, Shape.gap?_append (Content.length_cells .pet _),
        Option.or_eq_none_iff]
      exact ⟨content, flag⟩
  | user | adopter | petOwner | adoptionRequest | adoption => exact content

namespace Store

variable {s : Store} {kind : Kind}

/-- Rows of which nothing is missing that must be there are yielded as they are, one after another;
by induction on them.
-/
theorem yields_checkedRows {entries : List (Int × ArchivedRow kind)}
    (filled : ∀ entry ∈ entries, (ArchivedRow.columns kind).gap? entry.2.cells = none)
    : s.Yields (Listing.checkedRows entries) entries s := by
  induction entries with
  | nil => simp [Listing.checkedRows]
  | cons entry rest ih =>
      obtain ⟨own, filled⟩ := List.forall_mem_cons.mp filled
      obtain ⟨shown, metadata⟩ := ArchivedRow.shown_of_filled own
      have checked : s.Yields (Listing.checkedArchived entry.2) entry.2 s := by
        simp only [Listing.checkedArchived, yields_bind_iff, yields_checkAnswer_iff,
          yields_pure_iff]
        exact ⟨(), s, ⟨shown, rfl⟩, (), s, ⟨metadata, rfl⟩, trivial, rfl⟩
      simp only [Listing.checkedRows, List.mapM_cons, yields_bind_iff, yields_pure_iff]
      exact ⟨entry, s, ⟨entry.2, s, checked, rfl, rfl⟩, rest, s, ih filled, rfl, rfl⟩

variable {α : Type} {next : Table (ArchivedRow kind) → Work α}

/-- Work that begins with an archive table goes on with the rows of it. -/
theorem ask_archiveTable {rows : Table (ArchivedRow kind)}
    (present : s.tables.archive kind = some rows)
    : s.ask (archiveTable kind >>= next) = s.ask (next rows) := by
  have found : s.Yields (archiveTable kind) rows s := yields_archiveTable_iff.mpr ⟨present, rfl⟩
  rw [ask, run_bind, found.run_eq]
  rfl

/-- Work that begins with an archive table stops if that is missing. -/
theorem ask_archiveTable_of_missing (missing : s.tables.archive kind = none)
    : s.ask (archiveTable kind >>= next)
      = .error (.database (.missingTable (TableId.archive kind).name)) := by
  have stopped : s.Stops (archiveTable kind)
      (.database (.missingTable (TableId.archive kind).name)) s :=
    stops_archiveTable_iff.mpr ⟨⟨missing, rfl⟩, rfl⟩
  rw [ask, run_bind, stopped.run_eq]

end Store

-----------------------------------------------------------------------------------------
-- Records as listings show them
-----------------------------------------------------------------------------------------

/-- The texts that label records in listings: the name of a person or a pet, or what a request or an
adoption joins, for a request with its status. A record of which a part of its label is missing has none.
-/
def Content.IsLabel : (kind : Kind) → Content kind → String → Prop
  | .user, c, text => c.username = some text
  | .adopter, c, text => c.name = some text
  | .petOwner, c, text => c.name = some text
  | .pet, c, text => c.name = some text
  | .adoptionRequest, c, text =>
      ∃ pet adopter status, c.pet = some pet ∧ c.adopter = some adopter ∧ c.status = some status
        ∧ text = "pet " ++ toString pet ++ " / adopter " ++ toString adopter ++ " (" ++ status ++ ")"
  | .adoption, c, text =>
      ∃ pet adopter, c.pet = some pet ∧ c.adopter = some adopter
        ∧ text = "pet " ++ toString pet ++ " / adopter " ++ toString adopter

/-- A record is labelled with its label, by cases on the kind. -/
theorem Content.label_eq_some_iff {kind : Kind} {content : Content kind} {text : String}
    : Content.label kind content = some text ↔ Content.IsLabel kind content text := by
  cases kind with
  | user | adopter | petOwner | pet => exact Iff.rfl
  | adoptionRequest =>
      simp only [label, IsLabel, Option.bind_eq_bind, Option.pure_def, Option.bind_eq_some_iff]
      constructor
      · rintro ⟨pet, hasPet, adopter, hasAdopter, status, hasStatus, ⟨⟩⟩
        exact ⟨pet, adopter, status, hasPet, hasAdopter, hasStatus, rfl⟩
      · rintro ⟨pet, adopter, status, hasPet, hasAdopter, hasStatus, rfl⟩
        exact ⟨pet, hasPet, adopter, hasAdopter, status, hasStatus, rfl⟩
  | adoption =>
      simp only [label, IsLabel, Option.bind_eq_bind, Option.pure_def, Option.bind_eq_some_iff]
      constructor
      · rintro ⟨pet, hasPet, adopter, hasAdopter, ⟨⟩⟩
        exact ⟨pet, adopter, hasPet, hasAdopter, rfl⟩
      · rintro ⟨pet, adopter, hasPet, hasAdopter, rfl⟩
        exact ⟨pet, hasPet, adopter, hasAdopter, rfl⟩

/-- (r.Shows k entry) holds if a listed record shows an archived row of the kind k under its key: with
its label, and when, by whom and why it was archived.
-/
structure ArchivedRecord.Shows (r : ArchivedRecord) (k : Kind) (entry : Int × ArchivedRow k)
    : Prop where
  kind : r.kind = k
  key : r.key = entry.1
  label : ∀ text, r.label = some text ↔ Content.IsLabel k entry.2.content text
  archivedAt : r.archivedAt = entry.2.archivedAt
  archivedBy : r.archivedBy = entry.2.archivedBy
  reason : r.reason = entry.2.reason

/-- The record of a row shows it. -/
theorem ArchivedRecord.Shows.record {kind : Kind} (entry : Int × ArchivedRow kind)
    : (Listing.record kind entry.1 entry.2).Shows kind entry :=
  ⟨rfl, rfl, fun _ => Content.label_eq_some_iff, rfl, rfl, rfl⟩

/-- Records that show the same row are the same. -/
theorem ArchivedRecord.Shows.unique {r other : ArchivedRecord} {k : Kind} {entry : Int × ArchivedRow k}
    (h : r.Shows k entry) (h' : other.Shows k entry)
    : r = other := by
  obtain ⟨kind, key, label, archivedAt, archivedBy, reason⟩ := h
  obtain ⟨kind', key', label', archivedAt', archivedBy', reason'⟩ := h'
  have labels : r.label = other.label :=
    Option.ext fun text => (label text).trans (label' text).symm
  cases r
  cases other
  simp_all

/-- The records of rows show them, each one its own. -/
theorem ArchivedRecord.shows_map {kind : Kind} (entries : List (Int × ArchivedRow kind))
    : List.Forall₂ (·.Shows kind ·)
        (entries.map fun (key, row) => Listing.record kind key row) entries := by
  rw [List.forall₂_map_left_iff]
  exact List.forall₂_same.mpr fun entry _ => .record entry

-----------------------------------------------------------------------------------------
-- What is told of a kind
-----------------------------------------------------------------------------------------

namespace Tables

/-- The archived rows of a kind, latest first; a missing table has none. -/
def archiveListing (t : Tables) (kind : Kind) : List (Int × ArchivedRow kind) :=
  Listing.ordered ((t.archive kind).getD .empty)

variable {t : Tables} {kind : Kind}

theorem archiveListing_of_archive {rows : Table (ArchivedRow kind)}
    (present : t.archive kind = some rows)
    : t.archiveListing kind = Listing.ordered rows := by
  rw [archiveListing, present, Option.getD_some]

theorem archiveListing_of_missing (missing : t.archive kind = none)
    : t.archiveListing kind = [] := by
  rw [archiveListing, missing, Option.getD_none, Listing.ordered]
  exact List.mergeSort_nil

theorem mem_archiveListing {key : Int} {row : ArchivedRow kind}
    : (key, row) ∈ t.archiveListing kind ↔ t.archivedRow? kind key = some row := by
  rw [archiveListing, Listing.ordered, List.mem_mergeSort, mem_archiveEntries]

theorem Filled.of_mem_archiveListing (h : t.Filled) (kind : Kind)
    : ∀ entry ∈ t.archiveListing kind, (ArchivedRow.columns kind).gap? entry.2.cells = none := by
  rintro ⟨key, row⟩ member
  exact h kind key row (mem_archiveListing.mp member)

end Tables

/-- The summary that a list of archived rows, latest first, gives of its kind. -/
def Summary.ofListing (kind : Kind) (listing : List (Int × ArchivedRow kind)) : Summary where
  kind
  count := listing.length
  oldest := (listing.filterMap (·.2.archivedAt)).getLast?
  newest := (listing.filterMap (·.2.archivedAt)).head?

namespace Database

variable {d : Database} {kind : Kind}

theorem ask_of_reachable {α : Type} (reachable : d.reachable = true) (work : Work α)
    : d.ask work = d.store.ask work := by
  rw [ask, if_pos reachable]

/-- An untyped listing shows the first rows of the list of its kind. -/
theorem listArchived_eq (reachable : d.reachable = true) (kind : Kind) (limit : Int)
    : Overview.listArchived d kind limit
      = ((d.store.tables.archiveListing kind).take limit.toNat).map fun (key, row) =>
        Listing.record kind key row := by
  rw [Overview.listArchived, ask_of_reachable reachable, Listing.archived]
  cases present : d.store.tables.archive kind with
  | some rows =>
      rw [Store.ask_archiveTable present, Tables.archiveListing_of_archive present]
      rfl
  | none =>
      rw [Store.ask_archiveTable_of_missing present, Tables.archiveListing_of_missing present,
        List.take_nil]
      rfl

/-- The statistics count the rows of the list of a kind. -/
theorem statistics_eq (reachable : d.reachable = true) (kind : Kind)
    : (Overview.statistics d).get kind = (d.store.tables.archiveListing kind).length := by
  simp only [Overview.statistics, Statistics.get, ask_of_reachable reachable,
    Overview.countArchived]
  cases present : d.store.tables.archive kind with
  | some rows =>
      rw [Store.ask_archiveTable present, Tables.archiveListing_of_archive present,
        Listing.length_ordered]
      rfl
  | none =>
      rw [Store.ask_archiveTable_of_missing present, Tables.archiveListing_of_missing present]
      rfl

/-- The summaries are those that the lists of the kinds give. -/
theorem summary_eq (reachable : d.reachable = true)
    : Overview.summary d
      = Kind.summaryOrder.map fun kind =>
        Summary.ofListing kind (d.store.tables.archiveListing kind) := by
  rw [Overview.summary]
  apply List.map_congr_left
  intro kind _
  simp only [ask_of_reachable reachable, Overview.summarize]
  cases present : d.store.tables.archive kind with
  | some rows =>
      rw [Store.ask_archiveTable present, Tables.archiveListing_of_archive present]
      exact Summary.ofRows_eq rows
  | none =>
      rw [Store.ask_archiveTable_of_missing present, Tables.archiveListing_of_missing present]
      rfl

/-- Each kind has one summary. -/
theorem filter_summary (reachable : d.reachable = true) (kind : Kind)
    : (Overview.summary d).filter (·.kind = kind)
      = [.ofListing kind (d.store.tables.archiveListing kind)] := by
  have once : Kind.summaryOrder.filter (· = kind) = [kind] := by
    cases kind <;> rfl
  rw [summary_eq reachable, List.filter_map]
  show (Kind.summaryOrder.filter (· = kind)).map _ = _
  rw [once]
  rfl

/-- A typed listing has the first rows of the list of its kind, if nothing is missing in them that
the columns of the table require.
-/
theorem ask_archivedRows (reachable : d.reachable = true)
    (present : ∃ rows, d.store.tables.archive kind = some rows) (filled : d.store.tables.Filled)
    (limit : Int)
    : d.ask (Listing.archivedRows kind limit)
      = .ok ((d.store.tables.archiveListing kind).take limit.toNat) := by
  obtain ⟨rows, present⟩ := present
  have whole := filled.of_mem_archiveListing kind
  rw [Tables.archiveListing_of_archive present] at whole
  have listed := Store.yields_checkedRows (s := d.store) fun entry member =>
    whole entry (List.mem_of_mem_take (i := limit.toNat) member)
  rw [ask_of_reachable reachable, Listing.archivedRows, Store.ask_archiveTable present,
    listed.ask_eq, Tables.archiveListing_of_archive present]

/-- The listing of archived pets has the pets of the owner that is asked for, or all of them. -/
theorem ask_archivedPets (reachable : d.reachable = true)
    (present : ∃ rows, d.store.tables.archive .pet = some rows) (filled : d.store.tables.Filled)
    (owner : Option Int)
    : d.ask (Listing.archivedPets owner)
      = .ok ((d.store.tables.archiveListing .pet).filter fun entry =>
        owner.all fun owner => (entry.2.content : PetContent).owner == some owner) := by
  obtain ⟨rows, present⟩ := present
  have whole := filled.of_mem_archiveListing .pet
  rw [Tables.archiveListing_of_archive present] at whole
  rw [ask_of_reachable reachable, Listing.archivedPets, Store.ask_archiveTable present,
    Tables.archiveListing_of_archive present]
  cases owner with
  | none =>
      dsimp only
      rw [(Store.yields_checkedRows whole).ask_eq]
      simp
  | some owner =>
      dsimp only
      rw [Listing.ordered_filter, (Store.yields_checkedRows fun entry member =>
        whole entry (List.mem_filter.mp member).1).ask_eq]
      simp

/-- (d.Tells kind listing) holds if the list has the archived rows of a kind, each once and latest
first, and all that d tells of the archive of this kind agrees with it: untyped listings, which show
each row with its label and its metadata, typed ones, the count and the summary. For a typed listing
the table must be there, and nothing may be missing in its rows that its columns require.
-/
structure Tells (d : Database) (kind : Kind) (listing : List (Int × ArchivedRow kind)) : Prop where
  members : ∀ key row, (key, row) ∈ listing ↔ d.store.tables.archivedRow? kind key = some row
  descending : listing.Pairwise Listing.Before
  listed : ∀ limit, List.Forall₂ (·.Shows kind ·) (Overview.listArchived d kind limit)
    (listing.take limit.toNat)
  extended : ∀ fewer more, fewer ≤ more →
    Overview.listArchived d kind fewer <+: Overview.listArchived d kind more
  counted : (Overview.statistics d).get kind = listing.length
  summarized : (Overview.summary d).filter (·.kind = kind) = [.ofListing kind listing]
  typed : (∃ rows, d.store.tables.archive kind = some rows) → d.store.tables.Filled →
    d.ask (Listing.archivedRows kind Listing.standardLimit) = .ok (listing.take 100)
    ∧ (listing.take 100).map Prod.fst = (Overview.listArchived d kind 100).map (·.key)

/-- What a database that can be reached tells of a kind agrees with the list of its archived rows.
-/
theorem tells_archiveListing (reachable : d.reachable = true) (kind : Kind)
    : d.Tells kind (d.store.tables.archiveListing kind) where
  members _ _ := Tables.mem_archiveListing
  descending := (Listing.descending_ordered _).imp Listing.before_iff.mpr
  listed limit := by
    rw [listArchived_eq reachable]
    exact ArchivedRecord.shows_map _
  extended fewer more le := by
    rw [listArchived_eq reachable, listArchived_eq reachable]
    exact (List.take_prefix_take_left (Int.toNat_le_toNat le)).map _
  counted := statistics_eq reachable kind
  summarized := filter_summary reachable kind
  typed present filled := by
    refine ⟨ask_archivedRows reachable present filled _, ?_⟩
    rw [listArchived_eq reachable, List.map_map]
    rfl

/-- Reports and listings of the archive agree, on any database that can be reached. For each kind
there is a list of its archived rows, latest first, that all of them tell of; the total is the
number of rows in all the lists, and the pets of an owner are those in the list of pets. A kind
whose table is missing has an empty list, so its count is 0 and its summary the empty one; and what
is told of a kind is the same on every database with the same archive table of this kind.
-/
theorem reports_and_listings_agree (reachable : d.reachable = true)
    : ∃ listing : (kind : Kind) → List (Int × ArchivedRow kind),
        (∀ kind, d.Tells kind (listing kind))
        ∧ (Overview.statistics d).total
          = ([.user, .adopter, .petOwner, .pet, .adoptionRequest, .adoption].map fun kind =>
            ((listing kind).length : Int)).sum
        ∧ ((∃ rows, d.store.tables.archive .pet = some rows) → d.store.tables.Filled →
          ∀ owner : Option Int, d.ask (Listing.archivedPets owner)
            = .ok ((listing .pet).filter fun entry =>
              owner.all fun owner => (entry.2.content : PetContent).owner == some owner))
        ∧ (∀ kind, d.store.tables.archive kind = none →
          (Overview.statistics d).get kind = 0
          ∧ (Overview.summary d).filter (·.kind = kind) = [⟨kind, 0, none, none⟩]
          ∧ ∀ limit, Overview.listArchived d kind limit = [])
        ∧ ∀ kind (other : Database), other.reachable = true →
          other.store.tables.archive kind = d.store.tables.archive kind →
          other.Tells kind (listing kind) := by
  refine ⟨d.store.tables.archiveListing, tells_archiveListing reachable, ?_,
    ask_archivedPets reachable, ?_, ?_⟩
  · have counts : (Overview.statistics d).get
        = fun kind => ((d.store.tables.archiveListing kind).length : Int) :=
      funext (statistics_eq reachable)
    rw [Statistics.total, counts]
    rfl
  · intro kind missing
    have empty := Tables.archiveListing_of_missing missing
    refine ⟨?_, ?_, fun limit => ?_⟩
    · rw [statistics_eq reachable, empty]
      rfl
    · rw [filter_summary reachable, empty]
      rfl
    · rw [listArchived_eq reachable, empty, List.take_nil]
      rfl
  · intro kind other reachable same
    have listing : other.store.tables.archiveListing kind
        = d.store.tables.archiveListing kind := by
      rw [Tables.archiveListing, Tables.archiveListing, same]
    rw [← listing]
    exact tells_archiveListing reachable kind

/-- Two pets are archived at one instant: the one with the greater key is listed first, both are
counted, and the typed listing and that of the owner's pets have the same order.
-/
theorem reports_and_listings_agree_of_pets
    : let d := (fresh .epoch).after [
        .create .petOwner (PetOwnerContent.ofName "Ann"),
        .create .pet (PetContent.ofOwner 1 "Rex"),
        .create .pet (PetContent.ofOwner 1 "Tom"),
        .transition ⟨.archive, .pet, 1, none, "adopted"⟩,
        .transition ⟨.archive, .pet, 2, none, "adopted"⟩]
      Overview.listArchived d .pet 100
        = [⟨.pet, 2, some "Tom", some .epoch, none, some "adopted"⟩,
          ⟨.pet, 1, some "Rex", some .epoch, none, some "adopted"⟩]
      ∧ (Overview.statistics d).get .pet = 2
      ∧ (d.ask (Listing.archivedRows .pet Listing.standardLimit)).map (·.map Prod.fst) = .ok [2, 1]
      ∧ (d.ask (Listing.archivedPets (some 1))).map (·.map Prod.fst) = .ok [2, 1] := by
  intro d
  let row (name : String) : ArchivedRow .pet :=
    LiveRow.toArchive (.fresh (PetContent.ofOwner 1 name)) none "adopted" .epoch
  have entries : ((d.store.tables.archive .pet).getD .empty).entries
      = [(1, row "Rex"), (2, row "Tom")] := by
    decide +kernel
  obtain ⟨listing, tells, -, ofOwner, -⟩ := reports_and_listings_agree (d := d) (by decide +kernel)
  have listed : listing .pet = [(2, row "Tom"), (1, row "Rex")] := by
    refine eq_of_descending Listing.rank
      ((tells .pet).descending.imp Listing.before_iff.mp) ?_ ?_
    · rw [List.pairwise_pair]
      exact Listing.before_iff.mp (.greater rfl (by decide))
    · rintro ⟨key, found⟩
      rw [(tells .pet).members, ← Tables.mem_archiveEntries, entries, List.mem_pair, List.mem_pair,
        or_comm]
  have present : ∃ rows, d.store.tables.archive .pet = some rows :=
    Option.isSome_iff_exists.mp (by decide +kernel)
  have filled : d.store.tables.Filled := filled_after .epoch _
  refine ⟨?_, ?_, ?_, ?_⟩
  · have shown := (tells .pet).listed 100
    rw [listed] at shown
    refine (List.left_unique_forall₂' ?_ shown (ArchivedRecord.shows_map _)).trans rfl
    exact fun _ _ _ first second => first.unique second
  · rw [(tells .pet).counted, listed]
    rfl
  · rw [((tells .pet).typed present filled).1, listed]
    rfl
  · rw [ofOwner present filled, listed]
    rfl

end Database

end AdoptionRecords
