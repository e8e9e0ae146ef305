import AdoptionRecords.Overview
import AdoptionRecords.Proofs.History.Fates
import AdoptionRecords.Proofs.Store.Counting

/-! References between records. A store is closed if every reference of a record that it holds leads
to a record that is live or archived. The report on the integrity of the archive counts the archived
records that break this; every request but creations and purges keeps a store closed, and a purge
does so exactly when nothing refers to the purged record any more.
-/

namespace AdoptionRecords

open Calendar Work

-----------------------------------------------------------------------------------------
-- Closed stores
-----------------------------------------------------------------------------------------

namespace Tables

/-- A record is in the live table or in the archive table of its kind. -/
def Has (t : Tables) (kind : Kind) (key : Int) : Prop :=
  t.IsLive kind key ∨ t.IsArchived kind key

/-- A record is live or archived with a content. -/
def HoldsWith (t : Tables) (kind : Kind) (key : Int) (content : Content kind) : Prop :=
  (∃ row, t.liveRow? kind key = some row ∧ row.content = content)
  ∨ ∃ row, t.archivedRow? kind key = some row ∧ row.content = content

/-- A reference is there and leads to a record of a kind that is live or archived. -/
def Leads (t : Tables) (target : Kind) (reference : Option Int) : Prop :=
  ∃ key, reference = some key ∧ t.Has target key

/-- Every reference of a record leads to a record: a pet's to its owner, and those of a request and
of an adoption to the pet and to the adopter.
-/
def Resolves (t : Tables) : (kind : Kind) → Content kind → Prop
  | .pet, c => t.Leads .petOwner (PetContent.owner c)
  | .adoptionRequest, c =>
      t.Leads .pet (AdoptionRequestContent.pet c)
      ∧ t.Leads .adopter (AdoptionRequestContent.adopter c)
  | .adoption, c =>
      t.Leads .pet (AdoptionContent.pet c) ∧ t.Leads .adopter (AdoptionContent.adopter c)
  | .user, _ | .adopter, _ | .petOwner, _ => True

/-- Every reference of every live or archived record leads to a record. -/
def Closed (t : Tables) : Prop :=
  ∀ kind key content, t.HoldsWith kind key content → t.Resolves kind content

/-- The number of archived records of a kind with a reference that does not lead to a record. -/
noncomputable def dangling (t : Tables) (kind : Kind) : Nat :=
  Set.ncard { key | ∃ row, t.archivedRow? kind key = some row ∧ ¬ t.Resolves kind row.content }

end Tables

/-- A record refers to another, by its kind and key. -/
def Content.RefersTo (target : Kind) (key : Int) : (kind : Kind) → Content kind → Prop
  | .pet, c => target = .petOwner ∧ PetContent.owner c = some key
  | .adoptionRequest, c =>
      (target = .pet ∧ AdoptionRequestContent.pet c = some key)
      ∨ (target = .adopter ∧ AdoptionRequestContent.adopter c = some key)
  | .adoption, c =>
      (target = .pet ∧ AdoptionContent.pet c = some key)
      ∨ (target = .adopter ∧ AdoptionContent.adopter c = some key)
  | .user, _ | .adopter, _ | .petOwner, _ => False

namespace Tables

variable {t : Tables} {kind target : Kind} {key : Int} {content : Content kind}

theorem holds_iff : t.holds kind key = true ↔ t.Has kind key := by
  rw [holds, Bool.or_eq_true, Has, IsLive, IsArchived, liveRow?, archivedRow?]
  cases t.live kind <;> cases t.archive kind <;> simp [Table.contains]

/-- A record resolves if each of the references that it lists leads to a record. -/
theorem resolves_iff
    : t.Resolves kind content
      ↔ ∀ target reference, (target, reference) ∈ Content.references kind content →
          t.Leads target reference := by
  cases kind <;> simp [Resolves, Content.references, or_imp, forall_and]

/-- The check of a record tells whether one of its references does not lead to a record. -/
theorem dangles_iff : t.dangles kind content = true ↔ ¬ t.Resolves kind content := by
  have leads (target : Kind) (reference : Option Int)
      : reference.any (t.holds target) = true ↔ t.Leads target reference := by
    cases reference with
    | none => simp [Leads]
    | some key => simp [Leads, holds_iff]
  rw [resolves_iff, dangles, List.any_eq_true]
  simp [← leads]

/-- Whether tables are closed can be told from their entries. -/
theorem closed_iff
    : t.Closed
      ↔ ∀ kind ∈ Kind.declared,
          (∀ entry ∈ ((t.live kind).getD .empty).entries, t.dangles kind entry.2.content = false)
          ∧ ∀ entry ∈ ((t.archive kind).getD .empty).entries,
            t.dangles kind entry.2.content = false := by
  have undangling (kind : Kind) (content : Content kind)
      : t.dangles kind content = false ↔ t.Resolves kind content := by
    rw [← Bool.not_eq_true, dangles_iff, not_not]
  simp only [Prod.forall, mem_liveEntries, mem_archiveEntries, undangling]
  constructor
  · intro closed kind _
    exact ⟨fun key row found => closed kind key row.content (.inl ⟨row, found, rfl⟩),
      fun key row found => closed kind key row.content (.inr ⟨row, found, rfl⟩)⟩
  · intro resolved kind key content there
    have declared : kind ∈ Kind.declared := by
      cases kind <;> decide
    rcases there with ⟨row, found, rfl⟩ | ⟨row, found, rfl⟩
    · exact (resolved kind declared).1 key row found
    · exact (resolved kind declared).2 key row found

instance (t : Tables) : Decidable t.Closed :=
  decidable_of_iff _ closed_iff.symm

/-- In closed tables nothing dangles. -/
theorem Closed.dangling_eq (h : t.Closed) (kind : Kind) : t.dangling kind = 0 := by
  have empty : { key | ∃ row, t.archivedRow? kind key = some row
      ∧ ¬ t.Resolves kind row.content } = ∅ := by
    ext key
    simp only [Set.mem_ofPred_eq, Set.mem_empty_iff_false, iff_false, not_exists, not_and, not_not]
    exact fun row found => h kind key row.content (.inr ⟨row, found, rfl⟩)
  rw [dangling, empty, Set.ncard_empty]

/-- A record of a person refers to no other. -/
theorem resolves_of_people (people : kind.IsOfPeople) : t.Resolves kind content := by
  cases kind with
  | pet | adoptionRequest | adoption => exact people.elim
  | user | adopter | petOwner => trivial

end Tables

theorem Content.refersTo_iff {kind target : Kind} {key : Int} {content : Content kind}
    : Content.RefersTo target key kind content
      ↔ (target, some key) ∈ Content.references kind content := by
  cases kind <;> simp [RefersTo, references, eq_comm]

-----------------------------------------------------------------------------------------
-- The report
-----------------------------------------------------------------------------------------

namespace Overview

/-- The check of a kind counts its archived records with a dangling reference, if all tables that it
reads are there.
-/
theorem ask_countDangling {s : Store} (kind : Kind)
    (present : ∀ kind, (s.tables.live kind).isSome = true ∧ (s.tables.archive kind).isSome = true)
    : s.ask (countDangling kind) = .ok (s.tables.dangling kind) := by
  obtain ⟨archived, found⟩ := Option.isSome_iff_exists.mp (present kind).2
  have looked (targets : List Kind)
      : s.Yields (targets.forM fun target => do
          let _ ← liveTable target
          let _ ← archiveTable target) () s := by
    induction targets with
    | nil => exact Store.yields_pure_iff.mpr ⟨rfl, rfl⟩
    | cons target rest ih =>
        obtain ⟨live, there⟩ := Option.isSome_iff_exists.mp (present target).1
        obtain ⟨gone, kept⟩ := Option.isSome_iff_exists.mp (present target).2
        have reads : s.Yields (do
            let _ ← liveTable target
            let _ ← archiveTable target) PUnit.unit s := by
          simp [there, kept, -bind_pure_comp]
        exact Store.yields_bind_iff.mpr ⟨_, s, reads, ih⟩
  have counted : archived.count (fun _ row => s.tables.dangles kind row.content)
      = s.tables.dangling kind := by
    rw [Table.count_eq_ncard, Tables.dangling]
    simp only [Tables.archivedRow?_of_archive found, Tables.dangles_iff]
  have yields : s.Yields (countDangling kind) (s.tables.dangling kind) s := by
    rw [← counted]
    simp only [countDangling, Store.yields_bind_iff, Store.yields_archiveTable_iff,
      Store.yields_get_iff, Store.yields_pure_iff]
    exact ⟨archived, s, ⟨found, rfl⟩, _, s, looked _, s, s, ⟨rfl, rfl⟩, rfl, rfl⟩
  exact yields.ask_eq

/-- The report tells, in this order, of the pets, the requests and the adoptions that are archived
with a dangling reference, and of each only if there are any.
-/
theorem integrity_eq {d : Database} (reachable : d.reachable = true)
    (present : ∀ kind,
      (d.store.tables.live kind).isSome = true ∧ (d.store.tables.archive kind).isSome = true)
    : integrity d =
        [(Kind.pet, "pets without corresponding owners"),
          (.adoptionRequest, "adoption requests with missing references"),
          (.adoption, "adoptions with missing references")].filterMap fun (kind, what) =>
            let count := d.store.tables.dangling kind
            if count = 0 then none else some s!"Found {count} archived {what}" := by
  have told (kind : Kind) (count : Nat)
      : issue? kind (.ok count) = if count = 0 then none else some (issue kind count) := by
    cases count <;> rfl
  have asked (kind : Kind) : d.ask (countDangling kind) = .ok (d.store.tables.dangling kind) := by
    rw [Database.ask, if_pos reachable, ask_countDangling kind present]
  have pets : Kind.pet.label.toLower ++ " without corresponding owners"
      = "pets without corresponding owners" := by
    decide +kernel
  have requests : Kind.adoptionRequest.label.toLower ++ " with missing references"
      = "adoption requests with missing references" := by
    decide +kernel
  have adoptions : Kind.adoption.label.toLower ++ " with missing references"
      = "adoptions with missing references" := by
    decide +kernel
  simp only [integrity, checked, asked, told, issue, List.filterMap_cons, List.filterMap_nil,
    toString, String.append_assoc, ← pets, ← requests, ← adoptions]

end Overview

-----------------------------------------------------------------------------------------
-- Changes that keep a store closed
-----------------------------------------------------------------------------------------

/-- A change spares references if it purges no record, and leaves records that refer to others with
the references that they have.
-/
def Change.SparesReferences : Change → Prop
  | create kind .. => kind.IsOfPeople
  | transition t _ => t.operation ≠ .permanentDelete
  | amend kind (.revise _) => kind.IsOfPeople
  | _ => True

/-- A request spares references if it purges no record, and creates none that refers to others. -/
def Request.SparesReferences : Request → Prop
  | create kind _ => kind.IsOfPeople
  | transition t => t.operation ≠ .permanentDelete
  | transact calls _ => ∀ t, .transition t ∈ calls → t.operation ≠ .permanentDelete
  | deleteUser _ | flagPet _ | unflagPet _ | updateUser _ | archiveRequests .. | archivePets ..
  | retain _ | cleanUpLog _ | pruneLog _ | migrate | surroundings .. => True

/-- What a request causes that spares references, spares them: archiving purges nothing, and an
update of a user creates and revises people only.
-/
theorem Request.SparesReferences.of_causes {r : Request} {d : Database} {s : Store} {c : Change}
    (h : r.SparesReferences) (caused : r.Causes d s c)
    : c.SparesReferences := by
  have archives : c.Archives → c.SparesReferences := by
    intro archives
    cases c with
    | transition t => exact fun purges => nomatch archives.symm.trans purges
    | _ => exact archives.elim
  cases r with
  | create kind content =>
      obtain ⟨-, _, rfl⟩ := caused
      exact h
  | transition t =>
      obtain ⟨_, rfl⟩ := caused
      exact h
  | deleteUser user =>
      obtain ⟨_, rfl⟩ := caused
      exact fun purges => nomatch purges
  | flagPet | unflagPet =>
      cases caused
      trivial
  | updateUser u =>
      cases c with
      | create => exact caused
      | amend kind amendment =>
          cases amendment with
          | revise => exact caused
          | flag | unflag => trivial
      | _ => exact caused.elim
  | archiveRequests | archivePets => exact archives caused
  | retain =>
      rcases caused with archiving | ⟨_, rfl⟩
      · exact archives archiving
      · trivial
  | cleanUpLog | pruneLog | migrate =>
      obtain ⟨_, rfl⟩ := caused
      trivial
  | transact calls commit =>
      cases c with
      | transition t => exact h t caused
      | amend kind amendment =>
          cases amendment with
          | revise => exact caused.elim
          | flag | unflag => trivial
      | note => trivial
      | _ => exact caused.elim
  | surroundings => exact caused.elim

namespace Tables

variable {t before after : Tables} {kind : Kind} {key : Int} {content : Content kind}

/-- Tables with the same rows of a record have the record alike. -/
theorem has_congr (live : after.liveRow? kind key = before.liveRow? kind key)
    (archived : after.archivedRow? kind key = before.archivedRow? kind key)
    : after.Has kind key ↔ before.Has kind key := by
  rw [Has, Has, IsLive, IsLive, IsArchived, IsArchived, live, archived]

theorem holdsWith_congr (live : after.liveRow? kind key = before.liveRow? kind key)
    (archived : after.archivedRow? kind key = before.archivedRow? kind key)
    : after.HoldsWith kind key content ↔ before.HoldsWith kind key content := by
  rw [HoldsWith, HoldsWith, live, archived]

/-- Tables stay closed if they lose no record, and hold no record that refers to others but those
that they held before.
-/
theorem Closed.of_kept (h : before.Closed)
    (kept : ∀ kind key, before.Has kind key → after.Has kind key)
    (held : ∀ kind key content, after.HoldsWith kind key content →
      before.HoldsWith kind key content ∨ kind.IsOfPeople)
    : after.Closed := by
  intro kind key content holds
  rcases held kind key content holds with holds | people
  · rw [resolves_iff]
    intro target reference member
    obtain ⟨other, rfl, there⟩ := resolves_iff.mp (h kind key content holds) target reference member
    exact ⟨other, rfl, kept target other there⟩
  · exact resolves_of_people people

end Tables

namespace Transition.Moves

variable {t : Transition} {now : Instant} {before after : Tables}

/-- A transition that purges nothing loses no record. -/
theorem has_of_has (h : t.Moves now before after) (spares : t.operation ≠ .permanentDelete)
    (kind : Kind) (key : Int) (there : before.Has kind key)
    : after.Has kind key := by
  by_cases own : t.kind = kind ∧ t.key = key
  · obtain ⟨rfl, rfl⟩ := own
    have places := h.places
    cases operation : t.operation with
    | archive =>
        simp only [operation] at places
        exact .inr places.2.2.2
    | restore =>
        simp only [operation] at places
        exact .inl places.2.2.1
    | permanentDelete => exact (spares operation).elim
  · obtain ⟨live, archived⟩ := h.rows_of_other own
    exact (Tables.has_congr live archived).mpr there

/-- A transition gives no record another content. -/
theorem holdsWith_of_holdsWith (h : t.Moves now before after) (kind : Kind) (key : Int)
    (content : Content kind) (there : after.HoldsWith kind key content)
    : before.HoldsWith kind key content := by
  by_cases own : t.kind = kind ∧ t.key = key
  · obtain ⟨rfl, rfl⟩ := own
    have rows := h.rows_of_own
    cases operation : t.operation with
    | archive =>
        simp only [operation] at rows
        obtain ⟨row, found, nowhere, moved⟩ := rows
        rcases there with ⟨other, same, rfl⟩ | ⟨other, same, rfl⟩
        · rw [nowhere] at same
          cases same
        · rw [moved] at same
          cases same
          exact .inl ⟨row, found, rfl⟩
    | restore =>
        simp only [operation] at rows
        obtain ⟨row, found, nowhere, moved⟩ := rows
        rcases there with ⟨other, same, rfl⟩ | ⟨other, same, rfl⟩
        · rw [moved] at same
          cases same
          exact .inr ⟨row, found, rfl⟩
        · rw [nowhere] at same
          cases same
    | permanentDelete =>
        simp only [operation] at rows
        obtain ⟨row, found, nowhere, stays⟩ := rows
        rcases there with ⟨other, same, rfl⟩ | ⟨other, same, rfl⟩
        · rw [stays] at same
          exact .inl ⟨other, same, rfl⟩
        · rw [nowhere] at same
          cases same
  · obtain ⟨live, archived⟩ := h.rows_of_other own
    exact (Tables.holdsWith_congr live archived).mp there

end Transition.Moves

/-- A store that is closed stays so under every change that spares references. -/
theorem Tables.Closed.step {now : Instant} {s after : Store} {c : Change} (h : s.tables.Closed)
    (made : s.Makes now c after) (spares : c.SparesReferences)
    : after.tables.Closed := by
  cases made with
  | @create own content rows present free =>
      have apart (kind : Kind) (key : Int) (other : ¬ (own = kind ∧ s.sequences.live own = key)) :=
        Tables.liveRow?_setLive_apart present
          (fun _ h => Table.find?_insert_of_ne (LiveRow.fresh content) h) other
      refine h.of_kept ?_ ?_
      · intro kind key there
        by_cases new : own = kind ∧ s.sequences.live own = key
        · obtain ⟨rfl, rfl⟩ := new
          exact .inl (by simp [Tables.IsLive, Table.find?_insert])
        · exact (Tables.has_congr (apart kind key new) rfl).mpr there
      · intro kind key content there
        by_cases new : own = kind ∧ s.sequences.live own = key
        · exact .inr (new.1 ▸ spares)
        · exact .inl ((Tables.holdsWith_congr (apart kind key new) rfl).mp there)
  | transition moves present free =>
      exact h.of_kept (moves.has_of_has spares)
        fun kind key content there => .inl (moves.holdsWith_of_holdsWith kind key content there)
  | note | prune => exact h
  | @amend own rows amendment present =>
      have made : s.Makes now (.amend own amendment) _ := .amend present
      have apart (kind : Kind) (key : Int)
          : ∀ deed ∈ (Change.amend own amendment).deeds, ¬ deed.Concerns kind key := by
        simp [Change.deeds]
      refine h.of_kept ?_ ?_
      · intro kind key there
        obtain ⟨live, archived⟩ := made.keeps_key (apart kind key)
        exact there.imp live.mpr archived.mpr
      · intro kind key content there
        obtain ⟨archived, live⟩ := made.rows_of_apart (apart kind key)
        rcases live with live | ⟨_, ⟨⟩, live⟩
        · exact .inl ((Tables.holdsWith_congr live archived).mp there)
        -- The row may have been flagged or unflagged, which leaves its content, or revised.
        rcases there with ⟨row, found, rfl⟩ | ⟨row, found, rfl⟩
        · rw [live, Option.map_eq_some_iff] at found
          obtain ⟨old, found, rfl⟩ := found
          cases amendment with
          | flag => exact .inl (.inl ⟨old, found, Amendment.content_apply_flag.symm⟩)
          | unflag => exact .inl (.inl ⟨old, found, Amendment.content_apply_unflag.symm⟩)
          | revise => exact .inr spares
        · exact .inl (.inr ⟨row, archived ▸ found, rfl⟩)
  | complete =>
      refine h.of_kept ?_ ?_
      · intro kind key there
        exact (Tables.has_congr (s.tables.liveRow?_complete kind key)
          (s.tables.archivedRow?_complete kind key)).mpr there
      · intro kind key content there
        exact .inl ((Tables.holdsWith_congr (s.tables.liveRow?_complete kind key)
          (s.tables.archivedRow?_complete kind key)).mp there)

/-- A purge keeps closed tables closed exactly when no record that is left refers to the purged one,
which must not have been live as well.
-/
theorem Transition.Moves.closed_iff {t : Transition} {now : Instant} {before after : Tables}
    (h : t.Moves now before after) (purges : t.operation = .permanentDelete)
    (closed : before.Closed) (exclusive : ¬ before.IsLive t.kind t.key)
    : after.Closed
      ↔ ∀ kind key content, after.HoldsWith kind key content →
          ¬ Content.RefersTo t.kind t.key kind content := by
  have rows := h.rows_of_own
  simp only [purges] at rows
  obtain ⟨row, -, unarchived, live⟩ := rows
  have gone : ¬ after.Has t.kind t.key := by
    rw [Tables.Has, Tables.IsLive, live, Tables.IsArchived, unarchived]
    simpa [Tables.IsLive] using exclusive
  constructor
  · intro closed kind key content there refers
    have leads := Tables.resolves_iff.mp (closed kind key content there) _ _
      (Content.refersTo_iff.mp refers)
    obtain ⟨purged, same, has⟩ := leads
    cases same
    exact gone has
  · intro unreferred kind key content there
    have resolved := closed kind key content (h.holdsWith_of_holdsWith kind key content there)
    rw [Tables.resolves_iff] at resolved ⊢
    intro target reference member
    obtain ⟨other, rfl, has⟩ := resolved target reference member
    have apart : ¬ (t.kind = target ∧ t.key = other) := by
      rintro ⟨rfl, rfl⟩
      exact unreferred kind key content there (Content.refersTo_iff.mpr member)
    obtain ⟨sameLive, sameArchived⟩ := h.rows_of_other apart
    exact ⟨other, rfl, (Tables.has_congr sameLive sameArchived).mpr has⟩

namespace Database

/-- References between records, on any database. If all tables of records are there, the report on
the integrity of the archive tells, in this order, how many archived pets, requests and adoptions
have a reference that does not lead to a record, and of each only if there are any; so it is empty
on a closed store. Requests that purge nothing and create no record that refers to others keep a
closed store closed, whatever becomes of them. A purge that is completed on a closed store in which
no record is both live and archived keeps it closed exactly when no record that is left refers to
the purged one.
-/
theorem references (d : Database)
    : (d.reachable = true →
        (∀ kind,
          (d.store.tables.live kind).isSome = true ∧ (d.store.tables.archive kind).isSome = true) →
        (Overview.integrity d =
          [(Kind.pet, "pets without corresponding owners"),
            (.adoptionRequest, "adoption requests with missing references"),
            (.adoption, "adoptions with missing references")].filterMap fun (kind, what) =>
              let count := d.store.tables.dangling kind
              if count = 0 then none else some s!"Found {count} archived {what}")
        ∧ (d.store.tables.Closed → Overview.integrity d = []))
      ∧ (∀ requests, d.store.tables.Closed → (∀ r ∈ requests, r.SparesReferences) →
          (d.after requests).store.tables.Closed)
      ∧ ∀ kind key actor reason entry, d.store.tables.Closed →
          (∀ kind key, d.store.tables.IsLive kind key → ¬ d.store.tables.IsArchived kind key) →
          let purge := (transition ⟨.permanentDelete, kind, key, actor, reason⟩).run d
          purge.1 = .completed entry →
          (purge.2.store.tables.Closed
            ↔ ∀ other otherKey content,
                purge.2.store.tables.HoldsWith other otherKey content →
                ¬ Content.RefersTo kind key other content) := by
  refine ⟨?_, ?_, ?_⟩
  · intro reachable present
    have report := Overview.integrity_eq reachable present
    refine ⟨report, ?_⟩
    intro closed
    simp [report, closed.dangling_eq]
  · intro requests closed spares
    exact preserves_tables Tables.Closed
      (fun _ _ _ _ _ spares caused closed made => closed.step made (spares.of_causes caused))
      (.of_forall (fun r member _ => spares r member) d) closed
  · intro kind key actor reason entry closed exclusive purge completed
    obtain ⟨moved, moves, recorded⟩ := Store.yields_carryOut_iff.mp (yields_of_completed completed)
    obtain ⟨rows, -, -, -, -, -, left⟩ := Store.yields_record_iff.mp recorded
    have archived : d.store.tables.IsArchived kind key := moves.places.1
    have tables : purge.2.store.tables = moved.setLog _ := congrArg Store.tables left
    rw [tables]
    exact moves.closed_iff rfl closed fun live => exclusive kind key live archived

/-- A pet and its owner are archived, and nothing dangles. Once the owner is purged the pet has no
owner any more, and the report tells so.
-/
theorem references_of_pet
    : let before : List Request := [
        .create .petOwner (PetOwnerContent.ofName "Ann"),
        .create .pet (PetContent.ofOwner 1 "Rex")]
      let moves : List Request := [
        .transition ⟨.archive, .pet, 1, none, "moved away"⟩,
        .transition ⟨.archive, .petOwner, 1, none, "moved away"⟩]
      let d := ((fresh .epoch).after before).after moves
      let purged := ((transition ⟨.permanentDelete, .petOwner, 1, none, ""⟩).run d).2
      d.store.tables.Closed ∧ Overview.integrity d = []
      ∧ ¬ purged.store.tables.Closed
      ∧ Overview.integrity purged = ["Found 1 archived pets without corresponding owners"] := by
  intro before moves d purged
  have start : ((fresh .epoch).after before).store.tables.Closed := by
    decide +kernel
  have spares : ∀ r ∈ moves, r.SparesReferences := by
    simp [moves, Request.SparesReferences]
  have closed : d.store.tables.Closed :=
    (references ((fresh .epoch).after before)).2.1 moves start spares
  have present : ∀ kind,
      (d.store.tables.live kind).isSome = true ∧ (d.store.tables.archive kind).isSome = true := by
    intro kind
    cases kind <;> decide +kernel
  have exclusive : ∀ kind key, d.store.tables.IsLive kind key →
      ¬ d.store.tables.IsArchived kind key := by
    have located := Located.reached .epoch (before ++ moves)
    rw [after_append] at located
    with_reducible exact located.not_both
  have report := ((references d).1 (by decide +kernel) present).2 closed
  have completed : ((transition ⟨.permanentDelete, .petOwner, 1, none, ""⟩).run d).1
      = .completed ⟨3, "tbl_pet_owner", 1, .permanentDelete, none, .epoch, some ""⟩ := by
    decide +kernel
  have purge := (references d).2.2 .petOwner 1 none "" _ closed exclusive completed
  let rex : PetContent := .ofOwner 1 "Rex"
  have found : (purged.store.tables.archivedRow? .pet 1).map ArchivedRow.content = some rex := by
    decide +kernel
  have left : purged.store.tables.HoldsWith .pet 1 rex := .inr (Option.map_eq_some_iff.mp found)
  have refers : Content.RefersTo .petOwner 1 .pet rex := ⟨rfl, rfl⟩
  have unclosed : ¬ purged.store.tables.Closed := by
    intro closed
    -- The database of the general statement is this one as it is written: nothing is evaluated.
    with_reducible exact absurd refers (purge.mp closed .pet 1 rex left)
  exact ⟨closed, report, unclosed, by decide +kernel⟩

end Database

end AdoptionRecords
